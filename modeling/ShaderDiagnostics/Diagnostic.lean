import ShaderDiagnostics.Location
import ShaderDiagnostics.Twine.Basic
/-!
# Diagnostics

A diagnostic is one line: the source, the position if there is one, a severity and a message.

    <source>[:<line>:<column>]: <severity>: <message>
-/

namespace ShaderDiagnostics

/-- What one line of output says. -/
structure Diagnostic where
  source : String
  /-- Line and column. -/
  position : Option (UInt32 × UInt32)
  severity : String
  message : Twine

namespace Diagnostic

/-- The severity of a diagnostic that makes the compilation fail. -/
def error : String := "error"

/-- The severity of a diagnostic that does not. -/
def warning : String := "warning"

/-- The position that a location gives: none if it is unknown. -/
def positionOf (l : Location) : Option (UInt32 × UInt32) :=
  if l = .unknown then none else some (l.line, l.column)

/-- The parts of the position, with the colons behind them. -/
def positionParts : Option (UInt32 × UInt32) → List Twine
  | none => []
  | some (line, column) =>
    [.value (.uint32 line), .borrowed ":", .value (.uint32 column), .borrowed ":"]

/-- The line of a diagnostic. -/
def line (d : Diagnostic) : Twine :=
  .join ([.borrowed d.source, .borrowed ":"] ++ positionParts d.position ++
    [.borrowed " ", .borrowed d.severity, .borrowed ": ", d.message, .borrowed "\n"])

end Diagnostic

end ShaderDiagnostics
