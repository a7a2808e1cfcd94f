import ShaderDiagnostics.Word
/-!
# Source tables

A source table hands out ids to source names in first-seen order. The primary source is always
there and has the id 0; it also stands in for ids that were never handed out. Ids are words, so the
names past the last word share the largest id.
-/

namespace ShaderDiagnostics

/-- The names of the sources of a compilation. -/
structure SourceTable where
  /-- The name of source 0. -/
  primary : String
  /-- The names of the other sources, in the order of their ids. -/
  others : List String := []
  deriving DecidableEq

namespace SourceTable

/-- All names; the place of a name is its id. -/
def names (t : SourceTable) : List String :=
  t.primary :: t.others

/-- The primary name is always there. -/
theorem names_ne_nil (t : SourceTable) : t.names ≠ [] :=
  List.cons_ne_nil _ _

/-- The number of names. -/
def size (t : SourceTable) : Nat :=
  t.names.length

/-- The id of a name, if it has one. -/
def id? (t : SourceTable) (name : String) : Option UInt32 :=
  (t.names.idxOf? name).map Word.clamp

/-- The id of the next new name. -/
def nextId (t : SourceTable) : UInt32 :=
  Word.clamp t.size

/-- Add a new name at the end. -/
def push (t : SourceTable) (name : String) : SourceTable :=
  { t with others := t.others ++ [name] }

theorem names_push (t : SourceTable) (name : String) : (t.push name).names = t.names ++ [name] :=
  rfl

/-- Exactly the names that are not in the table have no id. -/
theorem id?_eq_none_iff (t : SourceTable) (name : String) : t.id? name = none ↔ name ∉ t.names := by
  simp [id?]

/-- The name of an id; the primary name for an id that was never handed out. -/
def nameOf (t : SourceTable) (id : UInt32) : String :=
  t.names[id.toNat]?.getD t.primary

end SourceTable

end ShaderDiagnostics
