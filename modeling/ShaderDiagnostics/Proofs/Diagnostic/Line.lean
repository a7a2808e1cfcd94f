import ShaderDiagnostics.Diagnostic
import ShaderDiagnostics.Proofs.Twine.Leaves
/-!
# The line of a diagnostic, as calls

A diagnostic reaches a sink as a block of calls (`Diagnostic.block`): the name of the source, the
position unless the location is the unknown one, the severity, the leaves of the message and the end
of the line, with the punctuation between them. Joining the parts drops empty messages alone, so a
part with an empty text keeps its call (`Diagnostic.calls_line`). The bytes of a block are those of
one line of text (`Diagnostic.payload_block`).
-/

namespace ShaderDiagnostics

/-! ## Blocks -/

namespace Diagnostic

/-- The calls of a position, with the colon behind each number; the unknown location has none. -/
def positionCalls (l : Location) : List Call :=
  if l = .unknown then []
  else
    [.text (Numeral.decimal l.line.toNat), .text ":", .text (Numeral.decimal l.column.toNat),
      .text ":"]

/-- The calls of a diagnostic. -/
def block (source severity : String) (message : Twine) (l : Location) : List Call :=
  [.text source, .text ":"] ++ positionCalls l ++ [.text " ", .text severity, .text ": "] ++
    message.calls ++ [.text "\n"]

/-- The text of a position, with the colon in front of each number. -/
def positionText (l : Location) : String :=
  if l = .unknown then ""
  else ":" ++ Numeral.decimal l.line.toNat ++ ":" ++ Numeral.decimal l.column.toNat

/-- The parts of a position are written by its calls. -/
theorem calls_positionParts (l : Location) :
    (positionParts (positionOf l)).flatMap Twine.calls = positionCalls l := by
  unfold positionOf positionCalls
  by_cases h : l = .unknown
  · rw [if_pos h, if_pos h]
    rfl
  · rw [if_neg h, if_neg h]
    rfl

/-- The line of a diagnostic makes the calls of its block. -/
theorem calls_line (source severity : String) (message : Twine) (l : Location) :
    (line ⟨source, positionOf l, severity, message⟩).calls = block source severity message l := by
  rw [line, Twine.calls_join, List.flatMap_append, List.flatMap_append, calls_positionParts, block]
  simp [Twine.calls, Twine.pieces]

/-! ## Bytes -/

/-- The colon behind the source and the calls of the position carry the position and a colon. -/
theorem payload_positionCalls (l : Location) :
    Utf8.encode ":" ++ (positionCalls l).flatMap Call.payload =
      Utf8.encode (positionText l ++ ":") := by
  unfold positionCalls positionText
  by_cases h : l = .unknown
  · rw [if_pos h, if_pos h]
    simp
  · rw [if_neg h, if_neg h]
    simp [Call.payload, Utf8.encode_append]

/-- A block is one line: source, position, severity and message. -/
theorem payload_block (source severity : String) (message : Twine) (l : Location) :
    (block source severity message l).flatMap Call.payload =
      Utf8.encode (source ++ positionText l ++ ": " ++ severity ++ ": " ++ message.text ++ "\n") := by
  have hcolon : Utf8.encode ": " = Utf8.encode ":" ++ Utf8.encode " " := Utf8.encode_append ":" " "
  calc (block source severity message l).flatMap Call.payload
    _ = Utf8.encode source ++ (Utf8.encode ":" ++ (positionCalls l).flatMap Call.payload) ++
          Utf8.encode " " ++ Utf8.encode severity ++ Utf8.encode ": " ++
          Utf8.encode message.text ++ Utf8.encode "\n" := by
        simp [block, Call.payload, Twine.payload_calls]
    _ = _ := by
        rw [payload_positionCalls]
        simp [Utf8.encode_append, hcolon]

end Diagnostic

end ShaderDiagnostics
