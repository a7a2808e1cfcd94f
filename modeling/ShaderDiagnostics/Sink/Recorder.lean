import ShaderDiagnostics.Sink.Basic
/-!
# Sinks that keep their calls

A recorder is a sink that keeps the calls themselves, and so tells text from bytes. Any other sink may
be watched (`Sink.watched`): its calls are kept beside its state, which changes nothing of what it
does (`Sink.receiveAll_watched`).
-/

namespace ShaderDiagnostics.Sink

/-! ## Recorders -/

/-- The sink whose state is the row of calls received so far. -/
def recorder : Sink (List Call) :=
  ⟨fun call calls => (calls ++ [call], [])⟩

theorem receive_recorder (call : Call) (calls : List Call) :
    recorder.receive call calls = (calls ++ [call], []) :=
  rfl

/-- A recorder keeps every call, in order. -/
theorem receiveAll_recorder (calls before : List Call) :
    recorder.receiveAll calls before = (before ++ calls, []) := by
  induction calls generalizing before with
  | nil => simp [receiveAll]
  | cons call calls ih => simp [receiveAll, receive_recorder, ih]

/-! ## Watching a sink -/

variable {σ : Type} (S : Sink σ)

/-- The sink that does what `S` does, and keeps the calls that it receives beside its state. -/
def watched : Sink (σ × List Call) :=
  ⟨fun call s =>
    let (after, events) := S.receive call s.1
    ((after, s.2 ++ [call]), events)⟩

theorem receive_watched (call : Call) (before : List Call) (s : σ) :
    S.watched.receive call (s, before) =
      (((S.receive call s).1, before ++ [call]), (S.receive call s).2) :=
  rfl

/-- Watching a sink changes neither what it comes to nor what it reports. -/
theorem receiveAll_watched (calls before : List Call) (s : σ) :
    S.watched.receiveAll calls (s, before) =
      (((S.receiveAll calls s).1, before ++ calls), (S.receiveAll calls s).2) := by
  induction calls generalizing s before with
  | nil => simp [receiveAll]
  | cons call calls ih => simp [receiveAll, receive_watched, ih]

end ShaderDiagnostics.Sink
