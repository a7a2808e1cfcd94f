import Mathlib
import ShaderDiagnostics.Proofs.Swizzle.Letters
import ShaderDiagnostics.Proofs.Swizzle.MatrixGrammar
import ShaderDiagnostics.Proofs.Swizzle.Repeats
/-!
# Texts that may be assigned through

From the text of a swizzle to the verdict on assigning through it: a vector text passes exactly if no
character occurs twice in it, and a matrix text exactly if no cell does (`isAssignable_of_text`). The
order of the characters or cells does not matter, neither for being accepted nor for the verdict.
-/

namespace ShaderDiagnostics.Swizzle

/-! ## Letters -/

section Letters

variable {set : LetterSet} {text text' : String}

/-- Letters may be assigned through exactly if none occurs twice. -/
theorem LetterSet.Spells.isAssignable_iff (h : set.Spells text) :
    (set.swizzle text).isAssignable = true ↔ text.toList.Nodup := by
  rw [LetterSet.swizzle, isAssignable_pack h.length_le h.byte_range]
  constructor
  · exact List.Nodup.of_map set.byte
  · exact List.Nodup.map_on fun a ha b hb => (byte_inj (h.mem a ha) (h.mem b hb)).mp

/-- Letters in another order are letters of the same set. -/
theorem LetterSet.Spells.of_perm (h : set.Spells text) (hperm : text'.toList.Perm text.toList) :
    set.Spells text' where
  ne_nil := fun hnil => h.ne_nil (List.perm_nil.mp (hnil ▸ hperm.symm))
  le := hperm.length_eq.trans_le h.le
  mem := fun c hc => h.mem c (hperm.mem_iff.mp hc)

end Letters

/-! ## Cells -/

theorem Cell.byte_injective : Function.Injective Cell.byte := by
  rintro ⟨row, column⟩ ⟨row', column'⟩ h
  have hselector := congrArg UInt8.toNat h
  rw [byte_toNat, byte_toNat, selector, selector] at hselector
  simp only at hselector
  have := column.isLt
  have := column'.isLt
  congr 1
  · exact Fin.ext (by omega)
  · exact Fin.ext (by omega)

theorem Cell.chars_injective (base : CellBase) : Function.Injective (Cell.chars base) := by
  intro cell cell' h
  have hread := congrArg readCell h
  rw [readCell_chars, readCell_chars, Except.ok.injEq, Prod.mk.injEq] at hread
  exact byte_injective hread.2

section Cells

variable {base : CellBase} {cells : List Cell} {text text' : String} {rest rest' : List Char}

/-- Cells may be assigned through exactly if none occurs twice among the parts of the text. -/
theorem Spells.isAssignable_iff (h : Spells base cells text) (htext : text.toList = '_' :: rest) :
    (Swizzle.mk (pack .matrix 0 (cells.map Cell.byte)) cells.length .matrix).isAssignable = true ↔
      (rest.splitOn '_').Nodup := by
  obtain ⟨-, hle, hparts⟩ := (spells_iff htext).mp h
  have hlength : (cells.map Cell.byte).length ≤ maxSlots := by rwa [List.length_map]
  have hpacked := isAssignable_pack hlength (byte_range cells)
  rw [List.length_map] at hpacked
  rw [hpacked, hparts, List.nodup_map_iff Cell.byte_injective,
    List.nodup_map_iff (Cell.chars_injective base)]

/-- Cells in another order are cells in the same base. -/
theorem Spells.of_perm (h : Spells base cells text) (htext : text.toList = '_' :: rest)
    (htext' : text'.toList = '_' :: rest') (hperm : (rest'.splitOn '_').Perm (rest.splitOn '_')) :
    ∃ cells', Spells base cells' text' := by
  obtain ⟨hpos, hle, hparts⟩ := (spells_iff htext).mp h
  have hforms : ∀ part ∈ rest'.splitOn '_', base.Forms part := by
    intro part hpart
    rw [hperm.mem_iff, hparts] at hpart
    obtain ⟨cell, -, rfl⟩ := List.mem_map.mp hpart
    exact ⟨cell, rfl⟩
  obtain ⟨cells', hparts'⟩ := exists_cells_eq_map hforms
  have hlength : cells'.length = cells.length := by
    rw [← List.length_map (Cell.chars base), ← hparts', hperm.length_eq, hparts, List.length_map]
  exact ⟨cells', (spells_iff htext').mpr ⟨by omega, by omega, hparts'⟩⟩

end Cells

/-! ## Texts -/

/-- An accepted text may be assigned through exactly if nothing occurs twice in it: no character of a
vector text, no cell of a matrix text. A text with the same characters or cells in another order is
accepted as well, with the same verdict. -/
theorem isAssignable_of_text (text : String) (s : Swizzle) :
    (ofVectorText text = .ok s →
      (s.isAssignable = true ↔ text.toList.Nodup) ∧
        ∀ text' : String, text'.toList.Perm text.toList →
          ∃ s', ofVectorText text' = .ok s' ∧ s'.isAssignable = s.isAssignable) ∧
    (ofMatrixText text = .ok s →
      ∃ rest, text.toList = '_' :: rest ∧
        (s.isAssignable = true ↔ (rest.splitOn '_').Nodup) ∧
          ∀ (text' : String) rest', text'.toList = '_' :: rest' →
            (rest'.splitOn '_').Perm (rest.splitOn '_') →
              ∃ s', ofMatrixText text' = .ok s' ∧ s'.isAssignable = s.isAssignable) := by
  refine ⟨fun hread => ?vector, fun hread => ?matrix⟩
  case vector =>
    obtain ⟨set, hset, rfl⟩ := ofVectorText_eq_ok_iff.mp hread
    refine ⟨hset.isAssignable_iff, fun text' hperm => ?_⟩
    have hset' := hset.of_perm hperm
    refine ⟨set.swizzle text', ofVectorText_of_spells hset', ?_⟩
    rw [Bool.eq_iff_iff, hset.isAssignable_iff, hset'.isAssignable_iff]
    exact hperm.nodup_iff
  case matrix =>
    obtain ⟨base, cells, hspells⟩ := exists_spells_of_ok hread
    obtain ⟨rest, htext⟩ := hspells.exists_rest
    rw [ofMatrixText_of_spells hspells] at hread
    obtain rfl := Except.ok.inj hread
    refine ⟨rest, htext, hspells.isAssignable_iff htext, fun text' rest' htext' hperm => ?_⟩
    obtain ⟨cells', hspells'⟩ := hspells.of_perm htext htext' hperm
    refine ⟨_, ofMatrixText_of_spells hspells', ?_⟩
    rw [Bool.eq_iff_iff, hspells.isAssignable_iff htext, hspells'.isAssignable_iff htext']
    exact hperm.nodup_iff

/-- `xzx` takes `x` twice, and so does `zxx`; `_11_22` takes two cells. -/
theorem isAssignable_of_text_xzx :
    (ofVectorText "xzx" = .ok ⟨8, 3, .vector⟩ ∧ (Swizzle.mk 8 3 .vector).isAssignable = false ∧
      ∃ s', ofVectorText "zxx" = .ok s' ∧ s'.isAssignable = false) ∧
    (ofMatrixText "_11_22" = .ok ⟨80, 2, .matrix⟩ ∧
      (Swizzle.mk 80 2 .matrix).isAssignable = true) := by
  have hvector : ofVectorText "xzx" = .ok ⟨8, 3, .vector⟩ := by decide
  have hmatrix : ofMatrixText "_11_22" = .ok ⟨80, 2, .matrix⟩ := by decide
  obtain ⟨hletters, horder⟩ := (isAssignable_of_text "xzx" ⟨8, 3, .vector⟩).1 hvector
  obtain ⟨rest, htext, hcells, -⟩ := (isAssignable_of_text "_11_22" ⟨80, 2, .matrix⟩).2 hmatrix
  have hrepeat : (Swizzle.mk 8 3 .vector).isAssignable = false :=
    Bool.eq_false_iff.mpr (mt hletters.mp (by decide))
  refine ⟨⟨hvector, hrepeat, ?_⟩, hmatrix, hcells.mpr ?_⟩
  · obtain ⟨s', hread, hverdict⟩ := horder "zxx" (by decide)
    exact ⟨s', hread, hverdict.trans hrepeat⟩
  · obtain rfl : ['1', '1', '_', '2', '2'] = rest := by simpa using htext
    decide

end ShaderDiagnostics.Swizzle
