import ShaderDiagnostics.Swizzle.Basic
import ShaderDiagnostics.Text.Utf8
/-!
# Matrix swizzles in text

A matrix swizzle is one to four cells, each with a `_` in front: all zero-based (`_m00_m11`) or all
one-based (`_11_22`). `Swizzle.ofMatrixText` reads one. Cells are taken from left to right; each is
checked for the limit of four, then for its form, then for its base. The form is checked on the
bytes of a cell, so a character that takes two bytes has the length of two digits.
-/

namespace ShaderDiagnostics.Swizzle

/-! ## Cells -/

/-- How the cells of a matrix swizzle count rows and columns. -/
inductive CellBase where
  /-- From 0, written with an `m` in front. -/
  | zero
  /-- From 1. -/
  | one
  deriving DecidableEq

/-- The byte of the digit of row or column 0. -/
def CellBase.lowest : CellBase → UInt8
  | zero => 0x30
  | one => 0x31

/-- The row or column that the byte of a digit stands for. -/
def CellBase.index? (base : CellBase) (b : UInt8) : Option UInt8 :=
  if base.lowest ≤ b ∧ b ≤ base.lowest + 3 then some (b - base.lowest) else none

/-- The selector of a cell given by the bytes of its two digits. -/
def CellBase.selector? (base : CellBase) (digits : Bytes) : Option UInt8 :=
  if h : digits.length = 2 then do
    let row ← base.index? digits[0]
    let column ← base.index? digits[1]
    return row * 4 + column
  else none

/-- Split a cell into its base, which an `m` tells, and its digits. -/
def cellParts : List Char → CellBase × List Char
  | 'm' :: digits => (.zero, digits)
  | digits => (.one, digits)

/-- The base and the selector of a cell. -/
def readCell (cell : List Char) : Except Error (CellBase × UInt8) :=
  let (base, digits) := cellParts cell
  match base.selector? (Utf8.encodeChars digits) with
  | some selector => .ok (base, selector)
  | none => .error (.malformedCell (String.ofList cell))

/-! ## Reading -/

/-- The selectors of a row of cells after `count` others, all of which must have the `active` base,
once there is one; `total` is the number of cells in the whole text. -/
def readCells (total : Nat) : Nat → Option CellBase → List (List Char) → Except Error (List UInt8)
  | _, _, [] => .ok []
  | count, active, cell :: rest =>
    if count = maxSlots then .error (.tooManyComponents total)
    else
      match readCell cell with
      | .error e => .error e
      | .ok (base, selector) =>
        if active.any (· != base) then .error .mixedSets
        else (readCells total (count + 1) (some base) rest).map (selector :: ·)

/-- The matrix swizzle that a row of characters spells. -/
def ofCells : List Char → Except Error Swizzle
  | [] => .error .empty
  | '_' :: rest =>
    let cells := rest.splitOn '_'
    (readCells cells.length 0 none cells).bind (ofSelectors .matrix)
  | text => .error (.malformedCell (String.ofList text))

/-- The matrix swizzle that a text spells, such as `_m00_m11` or `_11_22`. -/
def ofMatrixText (text : String) : Except Error Swizzle :=
  ofCells text.toList

end ShaderDiagnostics.Swizzle
