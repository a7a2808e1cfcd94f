import Mathlib
import ShaderDiagnostics.Proofs.Swizzle.Letters
import ShaderDiagnostics.Proofs.Swizzle.MatrixGrammar
import ShaderDiagnostics.Proofs.Swizzle.Repeats
import ShaderDiagnostics.Swizzle.Text
/-!
# Swizzles and their texts

A swizzle that was packed from one to four selectors of its kind (`IsPacked`) is written with one
letter or one cell for each of them, and its text is read as the swizzle again (`ofText_text`).
Whatever is read from a text is packed, so every swizzle that was read survives being written
(`exists_isPacked_of_ok`).
-/

namespace ShaderDiagnostics.Swizzle

/-! ## Packed swizzles -/

/-- A swizzle was packed from one to four selectors of its kind. -/
structure IsPacked (s : Swizzle) (selectors : List UInt8) : Prop where
  ne_nil : selectors ≠ []
  le : selectors.length ≤ maxSlots
  range : ∀ b ∈ selectors, b.toNat < 2 ^ s.kind.width
  eq : s = ⟨pack s.kind 0 selectors, selectors.length, s.kind⟩

variable {s : Swizzle} {kind : Kind} {text : String} {selectors : List UInt8}

/-- The selectors of a packed swizzle are those that it was packed from. -/
theorem IsPacked.selectors_eq (h : IsPacked s selectors) :
    s.selectors = selectors.map UInt8.toUInt32 := by
  refine List.map_injective_iff.mpr Word.toNat_injective ?_
  rw [h.eq, selectors_pack h.le h.range, List.map_map]
  exact List.map_congr_left fun b _ => (UInt8.toNat_toUInt32 b).symm

/-- A packed swizzle may be assigned through exactly if its selectors are pairwise different. -/
theorem IsPacked.isAssignable_iff (h : IsPacked s selectors) :
    s.isAssignable = true ↔ selectors.Nodup := by
  rw [h.eq]
  exact isAssignable_pack h.le h.range

/-- The swizzle that letters spell is packed from their places. -/
theorem LetterSet.Spells.isPacked {set : LetterSet} (h : set.Spells text) :
    IsPacked (set.swizzle text) (text.toList.map set.byte) where
  ne_nil := mt List.map_eq_nil_iff.mp h.ne_nil
  le := h.length_le
  range := h.byte_range
  eq := rfl

/-- The swizzle that cells spell is packed from their numbers. -/
theorem Spells.isPacked {base : CellBase} {cells : List Cell} (h : Spells base cells text) :
    IsPacked ⟨pack .matrix 0 (cells.map Cell.byte), cells.length, .matrix⟩
      (cells.map Cell.byte) where
  ne_nil := by
    intro hnil
    have hpos := h.pos
    rw [List.map_eq_nil_iff.mp hnil] at hpos
    exact absurd hpos (by decide)
  le := by
    rw [List.length_map]
    exact h.le
  range := byte_range cells
  eq := by rw [List.length_map]

/-! ## Letters -/

/-- A selector of a vector is one of four. -/
theorem eq_of_lt_four {b : UInt8} (h : b.toNat < 4) : b = 0 ∨ b = 1 ∨ b = 2 ∨ b = 3 := by
  simp only [← UInt8.toNat_inj]
  simp only [UInt8.reduceToNat]
  omega

/-- Every selector of a vector has a letter. -/
theorem letter_mem {b : UInt8} (h : b.toNat < 4) :
    letter b.toUInt32 ∈ LetterSet.position.letters := by
  rcases eq_of_lt_four h with rfl | rfl | rfl | rfl <;> decide

/-- The letter of a selector stands at the place that the selector names. -/
theorem byte_letter {b : UInt8} (h : b.toNat < 4) :
    LetterSet.position.byte (letter b.toUInt32) = b := by
  rcases eq_of_lt_four h with rfl | rfl | rfl | rfl <;> decide

/-- A packed vector swizzle is written in letters, one for each selector. -/
theorem toList_text_vector (h : IsPacked s selectors) (hkind : s.kind = .vector) :
    s.text.toList = selectors.map fun b => letter b.toUInt32 := by
  rw [Swizzle.text, String.toList_ofList, h.selectors_eq, hkind, List.flatMap_map]
  exact (List.map_eq_flatMap ..).symm

/-- A vector swizzle is read back from its text. -/
theorem ofVectorText_text (h : IsPacked s selectors) (hkind : s.kind = .vector) :
    ofVectorText s.text = .ok s := by
  have htext := toList_text_vector h hkind
  have hrange := h.range
  rw [hkind] at hrange
  have hspells : LetterSet.position.Spells s.text := by
    refine ⟨?_, ?_, ?_⟩ <;> rw [htext]
    · exact mt List.map_eq_nil_iff.mp h.ne_nil
    · rw [List.length_map]
      exact h.le
    · exact List.forall_mem_map.mpr fun b hb => letter_mem (hrange b hb)
  -- the letters are read as the selectors that they were written for
  have hbytes : s.text.toList.map LetterSet.position.byte = selectors := by
    rw [htext, List.map_map]
    exact (List.map_congr_left fun b hb => byte_letter (hrange b hb)).trans (List.map_id selectors)
  rw [ofVectorText_of_spells hspells, LetterSet.swizzle, hbytes, h.eq, hkind]

/-! ## Cells -/

/-- The cell of a matrix selector. -/
def Cell.ofByte (b : UInt8) : Cell :=
  ⟨Fin.ofNat 4 (b.toNat / 4), Fin.ofNat 4 b.toNat⟩

theorem Cell.byte_ofByte {b : UInt8} (h : b.toNat < 16) : (ofByte b).byte = b := by
  rw [← UInt8.toNat_inj, byte_toNat, selector, ofByte]
  simp only [Fin.val_ofNat]
  omega

/-- The cell of a selector is written as the zero-based spelling of its place. -/
theorem cell_byte (place : Cell) : cell place.byte.toUInt32 = '_' :: place.chars .zero := by
  obtain ⟨row, column⟩ := place
  revert row column
  decide

/-- A packed matrix swizzle is written in zero-based cells, one for each selector. -/
theorem toList_text_matrix (h : IsPacked s selectors) (hkind : s.kind = .matrix) :
    s.text.toList = (selectors.map Cell.ofByte).flatMap fun place => '_' :: place.chars .zero := by
  have hrange := h.range
  rw [hkind] at hrange
  rw [Swizzle.text, String.toList_ofList, h.selectors_eq, hkind, List.flatMap_map, List.flatMap_map]
  refine List.flatMap_congr fun b hb => ?_
  rw [← cell_byte, Cell.byte_ofByte (hrange b hb)]
  rfl

/-- A matrix swizzle is read back from its text. -/
theorem ofMatrixText_text (h : IsPacked s selectors) (hkind : s.kind = .matrix) :
    ofMatrixText s.text = .ok s := by
  have hrange := h.range
  rw [hkind] at hrange
  have hspells : Spells .zero (selectors.map Cell.ofByte) s.text := by
    refine ⟨toList_text_matrix h hkind, ?_, ?_⟩ <;> rw [List.length_map]
    · exact List.length_pos_of_ne_nil h.ne_nil
    · exact h.le
  -- the cells are read as the selectors that they were written for
  have hbytes : (selectors.map Cell.ofByte).map Cell.byte = selectors := by
    rw [List.map_map]
    exact (List.map_congr_left fun b hb => Cell.byte_ofByte (hrange b hb)).trans
      (List.map_id selectors)
  rw [ofMatrixText_of_spells hspells, hbytes, List.length_map, h.eq, hkind]

/-! ## Texts -/

/-- The text of a packed swizzle is read as the swizzle. -/
theorem ofText_text (h : IsPacked s selectors) : ofText s.kind s.text = .ok s := by
  cases hkind : s.kind with
  | vector => exact ofVectorText_text h hkind
  | matrix => exact ofMatrixText_text h hkind

/-- What is read from a text is packed. -/
theorem exists_isPacked_of_ok (h : ofText kind text = .ok s) :
    s.kind = kind ∧ ∃ selectors, IsPacked s selectors := by
  cases kind with
  | vector =>
      obtain ⟨set, hspells, rfl⟩ := ofVectorText_eq_ok_iff.mp h
      exact ⟨rfl, _, hspells.isPacked⟩
  | matrix =>
      obtain ⟨base, cells, hspells⟩ := exists_spells_of_ok h
      have hread := ofMatrixText_of_spells hspells
      obtain rfl := Except.ok.inj (h.symm.trans hread)
      exact ⟨rfl, _, hspells.isPacked⟩

end ShaderDiagnostics.Swizzle
