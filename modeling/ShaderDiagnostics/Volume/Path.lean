/-!
# Paths

A path is a text. What it leads to depends on its components only: repeated and trailing slashes
and inner `.` do not matter, so paths are equal if their components are (`FilePath.instBEq`). A `.`
at the start of a relative path does count, and `..` is kept, since what it leads to depends on the
directories there.
-/

namespace ShaderDiagnostics

/-- A path, as it was written. -/
structure FilePath where
  text : String

namespace FilePath

/-! ## Pieces -/

/-- What stands between the slashes of a path. -/
def pieces (p : FilePath) : List (List Char) :=
  p.text.toList.splitOn '/'

/-- The names that a path goes through: repeated slashes and those at its ends name nothing. -/
def names (p : FilePath) : List (List Char) :=
  p.pieces.filter (· ≠ [])

/-- Whether a path starts at the root. -/
def isAbsolute (p : FilePath) : Bool :=
  p.text.toList.head? == some '/'

/-- Whether a path ends in a slash. -/
def endsInSlash (p : FilePath) : Bool :=
  p.text.toList.getLast? == some '/'

/-! ## Components -/

/-- A step of a path. -/
inductive Component where
  | root
  /-- The current directory, at the start of a relative path. -/
  | current
  | parent
  | name (chars : List Char)
  deriving DecidableEq

/-- The step that a piece behind the first one stands for, if it is one. -/
def component? : List Char → Option Component
  | [] => none
  | ['.'] => none
  | ['.', '.'] => some .parent
  | chars => some (.name chars)

/-- The steps of a path. -/
def components (p : FilePath) : List Component :=
  match p.pieces with
  | [] => []
  | first :: rest =>
    let start : List Component :=
      if p.isAbsolute then [.root]
      else if first = ['.'] then [.current]
      else (component? first).toList
    start ++ rest.filterMap component?

instance instBEq : BEq FilePath := ⟨fun p q => p.components == q.components⟩

/-- Paths are equal as their components are. -/
theorem beq_iff (p q : FilePath) : (p == q) = true ↔ p.components = q.components := by
  show (p.components == q.components) = true ↔ _
  exact beq_iff_eq

end FilePath

end ShaderDiagnostics
