import ShaderDiagnostics.IoError
import ShaderDiagnostics.Text.Utf8
/-!
# Writers

A writer takes bytes, all of them or as many as it can before an error, and may be told to pass on
what it holds back. `Writer ω` gives both operations on states of type `ω`; each returns the error
it ended with, if any, and the new state.
-/

namespace ShaderDiagnostics

/-- The two operations of a writer with states of type `ω`. -/
structure Writer (ω : Type) where
  /-- Write all the bytes; stops at the first error. -/
  writeAll : Bytes → ω → Option IoError × ω
  /-- Pass on what is held back. -/
  flush : ω → Option IoError × ω

end ShaderDiagnostics
