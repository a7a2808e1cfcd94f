import Mathlib
import ShaderDiagnostics.Proofs.Event.Report
import ShaderDiagnostics.Sink.OverWriter
/-!
# Calls that fail

A sink that cannot take a call says so by one event, which carries the error and the size of the
chunk, and it reports nothing else (`Sink.Reports`). So the events of a row of calls are those of the
calls that fail, in order (`Sink.Reports.events_receiveAll`). A sink over a writer fails with a call
if the writer does; a sink that reports nothing never fails.
-/

namespace ShaderDiagnostics

namespace Sink

variable {σ : Type} {S : Sink σ} {failure : Call → σ → Option IoError}

/-- The sink reports the calls that fail, each by one event, where `failure` tells whether a call
fails in a state, and with which error. -/
def Reports (S : Sink σ) (failure : Call → σ → Option IoError) : Prop :=
  ∀ call s, (S.receive call s).2 =
    (failure call s).toList.map fun e => Event.ofFailure (e, call.payload.length)

/-- The failures in a row of calls from the state `s` on, each with its error and the size of the
chunk. -/
def failures (S : Sink σ) (failure : Call → σ → Option IoError) : List Call → σ → List (IoError × ℕ)
  | [], _ => []
  | call :: rest, s =>
    (failure call s).toList.map (fun e => (e, call.payload.length)) ++
      S.failures failure rest (S.receive call s).1

/-- The failures in a row of calls may be taken part by part. -/
theorem failures_append (a b : List Call) (s : σ) :
    S.failures failure (a ++ b) s =
      S.failures failure a s ++ S.failures failure b (S.receiveAll a s).1 := by
  induction a generalizing s with
  | nil => rfl
  | cons call a ih => rw [List.cons_append, failures, failures, ih, List.append_assoc]; rfl

/-- One event for each call that fails, in the order of the calls. -/
theorem Reports.events_receiveAll (h : S.Reports failure) (calls : List Call) (s : σ) :
    (S.receiveAll calls s).2 = (S.failures failure calls s).map Event.ofFailure := by
  induction calls generalizing s with
  | nil => rfl
  | cons call calls ih =>
      rw [failures, List.map_append, List.map_map, ← ih]
      exact congrArg (· ++ _) (h call s)

/-- The sink with a given effect that reports nothing. -/
def quiet (put : Call → σ → σ) : Sink σ :=
  ⟨fun call s => (put call s, [])⟩

/-- A sink that reports nothing reports all its failures, for it has none. -/
theorem reports_quiet (put : Call → σ → σ) : (quiet put).Reports fun _ _ => none :=
  fun _ _ => rfl

end Sink

namespace WriterSink

variable {ω : Type} (W : Writer ω)

/-- The error with which the writer fails to write the chunk of a call. -/
def failure (call : Call) (s : WriterSink ω) : Option IoError :=
  (W.writeAll call.payload s.writer).1

/-- A sink over a writer reports exactly the calls that its writer fails with. -/
theorem reports_failure : (sink W).Reports (failure W) := by
  intro call s
  show (put W call.payload s).2 = _
  unfold put failure
  rcases W.writeAll call.payload s.writer with ⟨_ | e, writer⟩ <;> rfl

end WriterSink

end ShaderDiagnostics
