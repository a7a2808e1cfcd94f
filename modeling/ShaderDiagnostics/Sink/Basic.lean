import ShaderDiagnostics.Event
import ShaderDiagnostics.Text.Utf8
/-!
# Sinks

A sink takes diagnostics as a sequence of calls, each with a text or with raw bytes, and never
refuses one. `Sink σ` is what a call does to a state of type `σ`, together with the events it
reports, oldest first. Most sinks look at the bytes of a call alone (`Sink.ofBytes`).

`Sink.receiveAll` makes a row of calls; a row may be cut anywhere (`receiveAll_append`).
-/

namespace ShaderDiagnostics

/-! ## Calls -/

/-- A call that a sink receives. -/
inductive Call where
  | text (content : String)
  | bytes (content : Bytes)
  deriving DecidableEq

/-- The bytes that a call carries. -/
def Call.payload : Call → Bytes
  | text content => Utf8.encode content
  | bytes content => content

/-! ## Sinks -/

/-- What a sink with states of type `σ` does with a call. -/
structure Sink (σ : Type) where
  /-- The state after a call, and the events that the call reports. -/
  receive : Call → σ → σ × List Event

namespace Sink

variable {σ : Type}

/-- The sink that treats text as its bytes. -/
def ofBytes (put : Bytes → σ → σ × List Event) : Sink σ :=
  ⟨fun call => put call.payload⟩

/-- Make a row of calls, first call first. -/
def receiveAll (S : Sink σ) : List Call → σ → σ × List Event
  | [], s => (s, [])
  | call :: rest, s =>
    let (s, events) := S.receive call s
    let (s, more) := S.receiveAll rest s
    (s, events ++ more)

theorem receiveAll_nil (S : Sink σ) (s : σ) : S.receiveAll [] s = (s, []) :=
  rfl

theorem receiveAll_singleton (S : Sink σ) (call : Call) (s : σ) :
    S.receiveAll [call] s = S.receive call s := by
  simp [receiveAll]

/-- A row of calls may be cut anywhere. -/
theorem receiveAll_append (S : Sink σ) (a b : List Call) (s : σ) :
    S.receiveAll (a ++ b) s =
      ((S.receiveAll b (S.receiveAll a s).1).1,
        (S.receiveAll a s).2 ++ (S.receiveAll b (S.receiveAll a s).1).2) := by
  induction a generalizing s with
  | nil => rfl
  | cons call a ih => simp [receiveAll, ih]

end Sink

end ShaderDiagnostics
