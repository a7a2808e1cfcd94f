import ShaderDiagnostics.Numeral
import ShaderDiagnostics.Word
/-!
# Source locations

A location names a source by its id and a position in it by line and column. One value,
`Location.unknown`, stands for a diagnostic without a position: it is an ordinary location, so
asking for it is plain equality (`isUnknown_iff`).
-/

namespace ShaderDiagnostics

/-- A position in a registered source. -/
structure Location where
  /-- The id that the source table handed out. -/
  source : UInt32
  /-- The line, as the lexer counts. -/
  line : UInt32
  /-- The column, as the lexer counts. -/
  column : UInt32
  deriving DecidableEq

namespace Location

/-! ## The unknown location -/

/-- The location of a diagnostic that has no position: the largest word in every field. -/
def unknown : Location := ⟨Word.top, Word.top, Word.top⟩

instance : Inhabited Location := ⟨unknown⟩

/-- Whether a location is the unknown one. -/
def isUnknown (l : Location) : Bool :=
  l.source == Word.top && l.line == Word.top && l.column == Word.top

/-- Asking field by field is asking for equality with the unknown location. -/
theorem isUnknown_iff (l : Location) : l.isUnknown = true ↔ l = unknown := by
  cases l
  simp [isUnknown, unknown, and_assoc]

/-- The same line and column in another source. -/
def inSource (l : Location) (source : UInt32) : Location :=
  { l with source }

/-! ## Texts -/

/-- The three numbers of a location, separated by colons. -/
def coordinates (l : Location) : String :=
  Numeral.decimal l.source.toNat ++ ":" ++ Numeral.decimal l.line.toNat ++ ":" ++
    Numeral.decimal l.column.toNat

/-- The text of a location in a message. -/
def text (l : Location) : String :=
  if l.isUnknown then "<unknown>" else l.coordinates

/-- The text of a location for a developer, which spells out the constant. -/
def inspect (l : Location) : String :=
  if l.isUnknown then "Location::BAD" else l.coordinates

end Location

end ShaderDiagnostics
