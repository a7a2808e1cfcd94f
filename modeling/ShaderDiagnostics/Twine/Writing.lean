import ShaderDiagnostics.Sink.Basic
import ShaderDiagnostics.Twine.Basic
/-!
# Writing twines

A twine is written to a sink by rendering it to the sink as a writer of text: leaf by leaf, from left
to right, each leaf in a call of its own. A rendering would end at a refusal, but a sink refuses
nothing (`Sink.runFrom_textWriter`), so one that fails to keep a leaf still gets the next one.
-/

namespace ShaderDiagnostics

variable {σ : Type}

namespace Sink

/-- A sink as a writer of text, with the events that it has reported so far. Each text is a call, and
none is refused. -/
def textWriter (S : Sink σ) : TextWriter (σ × List Event) :=
  .accepting fun text (s, events) =>
    let (s, more) := S.receive (.text text) s
    (s, events ++ more)

/-- Texts in a row are a row of calls to a sink, to the last one, whatever becomes of them. -/
theorem runFrom_textWriter (S : Sink σ) (texts : List String) (s : σ) (events : List Event) :
    Rendering.runFrom (forM texts S.textWriter.write) (s, events) =
      (.ok (), ((S.receiveAll (texts.map Call.text) s).1,
        events ++ (S.receiveAll (texts.map Call.text) s).2)) := by
  rw [textWriter, TextWriter.runFrom_accepting]
  induction texts generalizing s events with
  | nil => simp [receiveAll]
  | cons text texts ih =>
      rw [List.foldl_cons, ih, List.append_assoc]
      rfl

end Sink

/-- Write a twine to a sink. How the rendering ends is not looked at. -/
def Twine.writeTo (S : Sink σ) (t : Twine) (s : σ) : σ × List Event :=
  ((t.render S.textWriter).runFrom (s, [])).2

end ShaderDiagnostics
