import ShaderDiagnostics.Location
/-!
# Locations in a cache

A cache holds values as whole numbers, lists and records with named fields. A location is written
as a record (`Location.toStored`) and read back from a record or from a bare list of its three
numbers (`Location.ofStored?`). Main statement: what is written reads back
(`ofStored?_toStored`).
-/

namespace ShaderDiagnostics

/-! ## Stored values -/

/-- A value as a cache holds it. -/
inductive Stored where
  /-- A whole number. -/
  | whole (n : Int)
  /-- A list of values. -/
  | list (items : List Stored)
  /-- A record: values under their names. -/
  | fields (entries : List (String × Stored))
  /-- Any other value: a text, a truth value, a number with a fraction part, or nothing. -/
  | other

namespace Stored

/-- A stored value as a word: a whole number that fits. -/
def word? : Stored → Option UInt32
  | whole n => if 0 ≤ n then Word.ofNat? n.toNat else none
  | _ => none

/-- A word as a stored value. -/
def ofWord (w : UInt32) : Stored :=
  whole w.toNat

theorem word?_ofWord (w : UInt32) : (ofWord w).word? = some w := by
  simp [word?, ofWord, Word.ofNat?, w.toNat_lt]

end Stored

/-! ## Writing and reading a location -/

namespace Location

/-- A location as a record of its three numbers. -/
def toStored (l : Location) : Stored :=
  .fields [("source", .ofWord l.source), ("line", .ofWord l.line), ("column", .ofWord l.column)]

/-- Read a location from a record that has all three fields, other fields being ignored, or from a
list of exactly the three numbers in order. -/
def ofStored? : Stored → Option Location
  | .fields entries => do
    let source ← (← entries.lookup "source").word?
    let line ← (← entries.lookup "line").word?
    let column ← (← entries.lookup "column").word?
    return ⟨source, line, column⟩
  | .list [source, line, column] =>
    return ⟨← source.word?, ← line.word?, ← column.word?⟩
  | _ => none

/-- A location that is stored is read back as it was. -/
theorem ofStored?_toStored (l : Location) : ofStored? l.toStored = some l := by
  simp [ofStored?, toStored, List.lookup_cons, Stored.word?_ofWord]

end Location

end ShaderDiagnostics
