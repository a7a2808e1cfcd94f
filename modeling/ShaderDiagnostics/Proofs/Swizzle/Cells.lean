import Mathlib
import ShaderDiagnostics.Swizzle.Matrix
/-!
# The cells of a matrix swizzle

A cell stands for a row and a column below four. It has one spelling in each base (`Cell.chars`), and
a cell of a text is read exactly if it is such a spelling (`readCell_eq_ok`), although its form is
checked on bytes: a byte below 128 is a character of its own (`Utf8.encodeChars_eq_cons`). No byte is
looked at that is not there (`lookAtCell_eq`).
-/

namespace ShaderDiagnostics

/-! ## Characters of one byte -/

namespace Utf8

/-- The first byte of a character is below 128 only if it is the whole character. -/
theorem utf8EncodeChar_eq_cons {c : Char} {b : UInt8} {bytes : Bytes}
    (h : String.utf8EncodeChar c = b :: bytes) (hb : b.toNat < 128) :
    c.toNat = b.toNat ∧ bytes = [] := by
  rw [Char.toNat]
  unfold String.utf8EncodeChar at h
  simp only at h
  split at h
  · rename_i hle
    obtain ⟨rfl, rfl⟩ := List.cons_eq_cons.mp h
    exact ⟨(UInt8.toNat_ofNat_of_lt' (by rw [UInt8.size]; omega)).symm, rfl⟩
  -- a longer form starts with a byte of 0xC0 or more
  · split at h
    · obtain ⟨rfl, -⟩ := List.cons_eq_cons.mp h
      rw [UInt8.toNat_ofNat'] at hb
      omega
    · split at h
      · obtain ⟨rfl, -⟩ := List.cons_eq_cons.mp h
        rw [UInt8.toNat_ofNat'] at hb
        omega
      · obtain ⟨rfl, -⟩ := List.cons_eq_cons.mp h
        rw [UInt8.toNat_ofNat'] at hb
        omega

theorem encodeChars_eq_nil {chars : List Char} : encodeChars chars = [] ↔ chars = [] := by
  constructor
  · intro h
    cases chars with
    | nil => rfl
    | cons c rest => exact absurd (List.append_eq_nil_iff.mp h).1 String.utf8EncodeChar_ne_nil
  · rintro rfl
    rfl

/-- A byte below 128 at the front of a text is the first character. -/
theorem encodeChars_eq_cons {chars : List Char} {b : UInt8} {bytes : Bytes}
    (h : encodeChars chars = b :: bytes) (hb : b.toNat < 128) :
    ∃ c rest, chars = c :: rest ∧ c.toNat = b.toNat ∧ encodeChars rest = bytes := by
  cases chars with
  | nil => cases h
  | cons c rest =>
      obtain ⟨first, more, hc⟩ := List.exists_cons_of_ne_nil (String.utf8EncodeChar_ne_nil (c := c))
      rw [encodeChars, List.flatMap_cons, hc, List.cons_append] at h
      obtain ⟨rfl, hrest⟩ := List.cons_eq_cons.mp h
      obtain ⟨hval, rfl⟩ := utf8EncodeChar_eq_cons hc hb
      exact ⟨c, rest, rfl, hval, hrest⟩

end Utf8

namespace Swizzle

/-! ## Spellings -/

/-- The digit of a row or column. -/
def CellBase.digit : CellBase → Fin 4 → Char
  | zero, i => ['0', '1', '2', '3'].get i
  | one, i => ['1', '2', '3', '4'].get i

/-- What stands in front of the digits. -/
def CellBase.mark : CellBase → List Char
  | zero => ['m']
  | one => []

/-- A place in a matrix. -/
structure Cell where
  row : Fin 4
  column : Fin 4

namespace Cell

/-- The spelling of a cell. -/
def chars (base : CellBase) (cell : Cell) : List Char :=
  base.mark ++ [base.digit cell.row, base.digit cell.column]

/-- The number of a cell, row by row. -/
def selector (cell : Cell) : ℕ :=
  cell.row * 4 + cell.column

theorem selector_lt (cell : Cell) : cell.selector < 16 := by
  have := cell.row.isLt
  have := cell.column.isLt
  unfold selector
  omega

end Cell

/-- The forms of a cell in a base. -/
def CellBase.Forms (base : CellBase) (part : List Char) : Prop :=
  ∃ cell : Cell, part = cell.chars base

/-! ## Reading digits -/

/-- The digits of both bases are characters of one byte. -/
theorem CellBase.lowest_lt (base : CellBase) : base.lowest.toNat + 4 ≤ 128 := by
  cases base <;> decide

/-- The digits of a base follow its lowest one. -/
theorem CellBase.digit_toNat (base : CellBase) (i : Fin 4) :
    (base.digit i).toNat = base.lowest.toNat + i := by
  cases base <;> revert i <;> decide

/-- A byte is read as an index exactly if it is that of its digit. -/
theorem CellBase.index?_eq_some {base : CellBase} {b index : UInt8} :
    base.index? b = some index ↔
      ∃ i : Fin 4, b.toNat = base.lowest.toNat + i ∧ index.toNat = i := by
  have hlow := base.lowest_lt
  have hhigh : (base.lowest + 3).toNat = base.lowest.toNat + 3 := by cases base <;> rfl
  rw [index?, Option.ite_none_right_eq_some, UInt8.le_iff_toNat_le, UInt8.le_iff_toNat_le, hhigh]
  constructor
  · rintro ⟨⟨hle, hge⟩, hsub⟩
    obtain rfl := Option.some.inj hsub
    rw [UInt8.toNat_sub_of_le _ _ (UInt8.le_iff_toNat_le.mpr hle)]
    exact ⟨⟨b.toNat - base.lowest.toNat, by omega⟩, by simp only; omega, rfl⟩
  · rintro ⟨i, hb, hindex⟩
    have hle : base.lowest.toNat ≤ b.toNat := by omega
    refine ⟨⟨hle, by omega⟩, congrArg some (UInt8.toNat_inj.mp ?_)⟩
    rw [UInt8.toNat_sub_of_le _ _ (UInt8.le_iff_toNat_le.mpr hle)]
    omega

/-- The number of a cell, as a selector. -/
def Cell.byte (cell : Cell) : UInt8 :=
  UInt8.ofNat cell.selector

theorem Cell.byte_toNat (cell : Cell) : cell.byte.toNat = cell.selector :=
  UInt8.toNat_ofNat_of_lt' (cell.selector_lt.trans (by decide))

/-- A character with the number of a digit is that digit. -/
theorem CellBase.digit_eq {base : CellBase} {c : Char} {b : UInt8} {i : Fin 4}
    (hc : c.toNat = b.toNat) (hb : b.toNat = base.lowest.toNat + i) : c = base.digit i :=
  Char.toNat_inj.mp ((hc.trans hb).trans (base.digit_toNat i).symm)

/-- Characters are read as the digits of a cell exactly if that is what they are. -/
theorem CellBase.selector?_eq_some {base : CellBase} {digits : List Char} {selector : UInt8} :
    base.selector? (Utf8.encodeChars digits) = some selector ↔
      ∃ cell : Cell, digits = [base.digit cell.row, base.digit cell.column] ∧
        selector = cell.byte := by
  have hlow := base.lowest_lt
  constructor
  · intro h
    rw [selector?] at h
    split at h
    · rename_i hlength
      obtain ⟨b₀, b₁, hbytes⟩ := List.length_eq_two.mp hlength
      simp only [hbytes, List.getElem_cons_zero, List.getElem_cons_succ, Option.bind_eq_bind,
        Option.bind_eq_some_iff, Option.pure_def, Option.some_inj] at h
      obtain ⟨row, hrow, column, hcolumn, rfl⟩ := h
      obtain ⟨i, hb₀, hi⟩ := index?_eq_some.mp hrow
      obtain ⟨j, hb₁, hj⟩ := index?_eq_some.mp hcolumn
      -- both bytes are below 128, hence characters of their own
      obtain ⟨c₀, rest, rfl, hc₀, hrest⟩ := Utf8.encodeChars_eq_cons hbytes (by omega)
      obtain ⟨c₁, rest, rfl, hc₁, hrest⟩ := Utf8.encodeChars_eq_cons hrest (by omega)
      rw [Utf8.encodeChars_eq_nil.mp hrest, digit_eq hc₀ hb₀, digit_eq hc₁ hb₁]
      refine ⟨⟨i, j⟩, rfl, UInt8.toNat_inj.mp ?_⟩
      rw [UInt8.toNat_add, UInt8.toNat_mul, hi, hj, Cell.byte_toNat, Cell.selector]
      have hlt := Cell.selector_lt ⟨i, j⟩
      simp only [Cell.selector] at hlt
      simp only [UInt8.reduceToNat]
      omega
    · cases h
  · rintro ⟨⟨row, column⟩, rfl, rfl⟩
    cases base <;> revert row column <;> decide

/-! ## Reading cells -/

/-- The spelling of a cell is split into its base and its digits. -/
theorem cellParts_chars (base : CellBase) (cell : Cell) :
    cellParts (cell.chars base) = (base, [base.digit cell.row, base.digit cell.column]) := by
  obtain ⟨row, column⟩ := cell
  cases base with
  | zero => rfl
  | one => revert row column; decide

/-- Splitting a part loses nothing of it. -/
theorem mark_append_cellParts (part : List Char) :
    (cellParts part).1.mark ++ (cellParts part).2 = part := by
  unfold cellParts
  split <;> rfl

/-- No form belongs to both bases. -/
theorem base_eq_of_chars_eq {base base' : CellBase} {cell cell' : Cell}
    (h : cell.chars base = cell'.chars base') : base = base' := by
  have hparts := congrArg (fun part => (cellParts part).1) h
  simpa only [cellParts_chars] using hparts

/-- A cell keeps clear of the character between cells. -/
theorem separator_not_mem_chars (base : CellBase) (cell : Cell) : '_' ∉ cell.chars base := by
  obtain ⟨row, column⟩ := cell
  cases base <;> revert row column <;> decide

/-- A cell is read exactly if it is a spelling of a place, and read as that place. -/
theorem readCell_eq_ok {part : List Char} {base : CellBase} {selector : UInt8} :
    readCell part = .ok (base, selector) ↔
      ∃ cell : Cell, part = cell.chars base ∧ selector = cell.byte := by
  rw [readCell]
  constructor
  · intro h
    cases hselector : (cellParts part).1.selector? (Utf8.encodeChars (cellParts part).2) with
    | none => simp [hselector] at h
    | some found =>
        simp only [hselector, Except.ok.injEq, Prod.mk.injEq] at h
        obtain ⟨rfl, rfl⟩ := h
        obtain ⟨cell, hdigits, hbyte⟩ := CellBase.selector?_eq_some.mp hselector
        refine ⟨cell, ?_, hbyte⟩
        rw [Cell.chars, ← hdigits, mark_append_cellParts]
  · rintro ⟨cell, rfl, rfl⟩
    have hselector := CellBase.selector?_eq_some.mpr
      ⟨cell, (rfl : [base.digit cell.row, base.digit cell.column] = _), rfl⟩
    simp only [cellParts_chars, hselector]

/-- The spelling of a cell is read as its base and the cell. -/
theorem readCell_chars (base : CellBase) (cell : Cell) :
    readCell (cell.chars base) = .ok (base, cell.byte) :=
  readCell_eq_ok.mpr ⟨cell, rfl, rfl⟩

/-- A cell that has neither form is refused as a whole. -/
theorem readCell_of_not_forms {part : List Char} (h : ∀ base : CellBase, ¬ base.Forms part) :
    readCell part = .error (.malformedCell (String.ofList part)) := by
  cases hselector : (cellParts part).1.selector? (Utf8.encodeChars (cellParts part).2) with
  | none => simp only [readCell, hselector]
  | some selector =>
      have hread : readCell part = .ok ((cellParts part).1, selector) := by
        simp only [readCell, hselector]
      obtain ⟨cell, hpart, -⟩ := readCell_eq_ok.mp hread
      exact absurd ⟨cell, hpart⟩ (h _)

/-! ## Looking at bytes -/

/-- Read a cell with every byte looked up by its place; `none` is a look beyond the last byte. -/
def lookAtCell (cell : List Char) : Option (Except Error (CellBase × UInt8)) :=
  let (base, digits) := cellParts cell
  let bytes := Utf8.encodeChars digits
  let malformed := Except.error (.malformedCell (String.ofList cell))
  if bytes.length ≠ 2 then some malformed
  else do
    let first ← bytes[0]?
    let second ← bytes[1]?
    match base.index? first, base.index? second with
    | some row, some column => some (.ok (base, row * 4 + column))
    | _, _ => some malformed

/-- Whatever the characters of a cell, no look goes beyond its bytes. -/
theorem lookAtCell_eq (cell : List Char) : lookAtCell cell = some (readCell cell) := by
  rw [lookAtCell, readCell]
  generalize cellParts cell = parts
  obtain ⟨base, digits⟩ := parts
  simp only [CellBase.selector?]
  split
  · rfl
  · rename_i hlength
    have hlength := not_not.mp hlength
    rw [dif_pos hlength, List.getElem?_eq_getElem (by omega), List.getElem?_eq_getElem (by omega)]
    simp only [Option.bind_eq_bind, Option.bind_some]
    cases base.index? (Utf8.encodeChars digits)[0] <;>
      cases base.index? (Utf8.encodeChars digits)[1] <;> rfl

end Swizzle

end ShaderDiagnostics
