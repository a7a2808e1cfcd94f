import ShaderDiagnostics.Swizzle.Vector
import ShaderDiagnostics.Swizzle.Matrix
/-!
# The text of a swizzle

Every swizzle has one text: a vector swizzle is written in `xyzw`, a matrix swizzle in zero-based
cells. `Swizzle.ofText` reads the text of either kind.
-/

namespace ShaderDiagnostics.Swizzle

/-! ## Writing -/

/-- The letter of a vector selector; `?` stands for a selector that no letter has. -/
def letter (selector : UInt32) : Char :=
  LetterSet.position.letters[selector.toNat]?.getD '?'

/-- The zero-based cell of a matrix selector. -/
def cell (selector : UInt32) : List Char :=
  ['_', 'm'] ++ Numeral.decimalDigits (selector / 4).toNat ++
    Numeral.decimalDigits (selector % 4).toNat

/-- The characters of one selector. -/
def piece : Kind → UInt32 → List Char
  | .vector, selector => [letter selector]
  | .matrix, selector => cell selector

/-- The text of a swizzle. -/
def text (s : Swizzle) : String :=
  String.ofList (s.selectors.flatMap (piece s.kind))

/-- The text of a swizzle for a developer: its three parts by name. -/
def inspect (s : Swizzle) : String :=
  "Swizzle \x7b mask: " ++ Numeral.decimal s.mask.toNat ++ ", len: " ++ Numeral.decimal s.length ++
    ", kind: " ++ s.kind.name ++ " \x7d"

/-! ## Reading -/

/-- The swizzle of the given kind that a text spells. -/
def ofText : Kind → String → Except Error Swizzle
  | .vector => ofVectorText
  | .matrix => ofMatrixText

end ShaderDiagnostics.Swizzle
