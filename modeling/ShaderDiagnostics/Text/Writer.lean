/-!
# Writers of text

A writer of text may refuse what it is given, and a rendering stops at the first refusal
(`TextWriter`, `Rendering`). The writers at hand refuse nothing (`TextWriter.accepting`), so they are
given all that there is to write (`TextWriter.runFrom_accepting`). A string is such a writer.
-/

namespace ShaderDiagnostics

/-! ## Renderings -/

/-- Why a text is not written: it was refused, and no more is said. -/
inductive FormatError where
  | refused
  deriving DecidableEq

/-- What is rendered to a writer with states of type `ω`. A refusal ends the rendering there and
then, and the writer keeps what it took before. -/
abbrev Rendering (ω : Type) := ExceptT FormatError (StateM ω)

/-- How a rendering ends that starts with the writer in the state `w`, and the writer after it. -/
def Rendering.runFrom {ω : Type} (r : Rendering ω Unit) (w : ω) : Except FormatError Unit × ω :=
  r.run.run w

/-! ## Writers -/

/-- A writer of text with states of type `ω`. -/
structure TextWriter (ω : Type) where
  /-- Write a text, or refuse it. -/
  write : String → Rendering ω Unit

namespace TextWriter

variable {ω : Type}

/-- The writer that refuses nothing and takes each text up as `add` says. -/
def accepting (add : String → ω → ω) : TextWriter ω :=
  ⟨fun text => modify (add text)⟩

/-- Texts in a row are all taken up by a writer that refuses nothing. -/
theorem runFrom_accepting (add : String → ω → ω) (texts : List String) (w : ω) :
    Rendering.runFrom (forM texts (accepting add).write) w =
      (.ok (), texts.foldl (fun w text => add text w) w) := by
  induction texts generalizing w with
  | nil => rfl
  | cons text texts ih => exact ih (add text w)

/-- Strings as writers: a text goes to the end of the string. -/
def string : TextWriter String :=
  accepting fun text written => written ++ text

end TextWriter

end ShaderDiagnostics
