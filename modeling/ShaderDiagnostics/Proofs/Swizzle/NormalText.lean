import Mathlib
import ShaderDiagnostics.Proofs.Swizzle.Obtained
/-!
# The normal text of a swizzle

Several texts are read as the same swizzle, and the swizzle itself is written in one way only: in the
letters `xyzw` or in zero-based cells. So the text of a swizzle is the text that it was read from with
each letter and each cell made normal (`toList_text_letters`, `toList_text_cells`). It is read as the
swizzle again, and a text changes by being read and written exactly if it is not in the normal letters
or cells (`text_normalises`).
-/

namespace ShaderDiagnostics.Swizzle

/-! ## Normal letters and cells -/

/-- The letter of the same component in `xyzw`. -/
def normalLetter : Char → Char
  | 'r' => 'x'
  | 'g' => 'y'
  | 'b' => 'z'
  | 'a' => 'w'
  | c => c

/-- The digit for the same row or column if the first one has the number 0 and not 1. -/
def digitBefore : Char → Char
  | '1' => '0'
  | '2' => '1'
  | '3' => '2'
  | '4' => '3'
  | c => c

/-- The zero-based cell of the same place. Two characters alone are a one-based cell. -/
def normalCell : List Char → List Char
  | [row, column] => ['m', digitBefore row, digitBefore column]
  | part => part

section Letters

variable {set : LetterSet} {c : Char}

/-- A letter is written as the normal letter of its component. -/
theorem letter_byte (h : c ∈ set.letters) : letter (set.byte c).toUInt32 = normalLetter c := by
  cases set <;>
    simp only [LetterSet.letters, List.mem_cons, List.not_mem_nil, or_false] at h <;>
    rcases h with rfl | rfl | rfl | rfl <;> decide

/-- The normal letters are those of `xyzw`. -/
theorem normalLetter_eq_self_iff (h : c ∈ set.letters) :
    normalLetter c = c ↔ c ∈ LetterSet.position.letters := by
  cases set <;>
    simp only [LetterSet.letters, List.mem_cons, List.not_mem_nil, or_false] at h <;>
    rcases h with rfl | rfl | rfl | rfl <;> decide

end Letters

/-- A cell in either base is made normal in the base zero. -/
theorem normalCell_chars (base : CellBase) (cell : Cell) :
    normalCell (cell.chars base) = cell.chars .zero := by
  obtain ⟨row, column⟩ := cell
  cases base <;> revert row column <;> decide

/-! ## Written letters and cells -/

section

variable {set : LetterSet} {base : CellBase} {cells : List Cell} {text : String} {rest : List Char}
  {s : Swizzle} {selectors : List UInt8}

/-- What is read from letters is written in the normal letters. -/
theorem toList_text_letters (h : set.Spells text) :
    (set.swizzle text).text.toList = text.toList.map normalLetter := by
  rw [toList_text_vector h.isPacked rfl, List.map_map]
  apply List.map_congr_left
  intro c hc
  exact letter_byte (h.mem c hc)

/-- What is read from cells is written in the normal cells. -/
theorem toList_text_cells (h : Spells base cells text) :
    (Swizzle.mk (pack .matrix 0 (cells.map Cell.byte)) cells.length .matrix).text.toList =
      cells.flatMap fun cell => '_' :: cell.chars .zero := by
  rw [Swizzle.text, String.toList_ofList, h.isPacked.selectors_eq, List.map_map, List.flatMap_map]
  apply List.flatMap_congr
  intro cell _
  exact cell_byte cell

/-- The parts of a text that spells cells are formed in the base of the cells. -/
theorem forms_of_spells (h : Spells base cells text) (htext : text.toList = '_' :: rest) :
    ∀ part ∈ rest.splitOn '_', base.Forms part := by
  obtain ⟨-, -, hparts⟩ := (spells_iff htext).mp h
  rw [hparts, List.forall_mem_map]
  intro cell _
  exact ⟨cell, rfl⟩

/-- No part is a cell in both bases. -/
theorem forms_zero_iff (h : Spells base cells text) (htext : text.toList = '_' :: rest) :
    (∀ part ∈ rest.splitOn '_', CellBase.zero.Forms part) ↔ base = .zero := by
  constructor
  · intro hforms
    obtain ⟨part, hpart⟩ := List.exists_mem_of_ne_nil _ (List.splitOn_ne_nil '_' rest)
    obtain ⟨cell, hcell⟩ := forms_of_spells h htext part hpart
    obtain ⟨cell', hcell'⟩ := hforms part hpart
    exact base_eq_of_chars_eq (hcell.symm.trans hcell')
  · rintro rfl
    exact forms_of_spells h htext

/-- Cells in the base zero are written as they were read, and no others are. -/
theorem text_eq_iff (h : Spells base cells text) :
    (Swizzle.mk (pack .matrix 0 (cells.map Cell.byte)) cells.length .matrix).text = text ↔
      base = .zero := by
  have hwritten := toList_text_cells h
  constructor
  · intro hsame
    -- the text spells its own cells in the base zero
    rw [hsame] at hwritten
    have hspells : Spells .zero cells text := ⟨hwritten, h.pos, h.le⟩
    obtain ⟨rest, htext⟩ := h.exists_rest
    exact (forms_zero_iff h htext).mp (forms_of_spells hspells htext)
  · rintro rfl
    exact String.toList_inj.mp (hwritten.trans h.toList_eq.symm)

/-- Every selector of a packed swizzle has a letter or a cell. -/
theorem question_not_mem_text (h : IsPacked s selectors) : '?' ∉ s.text.toList := by
  have hrange := h.range
  cases hkind : s.kind with
  | vector =>
      rw [hkind] at hrange
      rw [toList_text_vector h hkind, List.mem_map]
      rintro ⟨b, hb, hletter⟩
      have hmem := letter_mem (hrange b hb)
      rw [hletter] at hmem
      exact absurd hmem (by decide)
  | matrix =>
      rw [toList_text_matrix h hkind, List.mem_flatMap]
      rintro ⟨⟨row, column⟩, -, hmem⟩
      revert row column
      decide

/-! ## From text to text -/

/-- How the text of a swizzle is got from the letters that it was read from. -/
structure NormalisesLetters (text : String) (s : Swizzle) : Prop where
  /-- Each letter is made normal. -/
  toList_eq : s.text.toList = text.toList.map normalLetter
  /-- The text stays the same exactly if it is written in `xyzw`. -/
  eq_iff : s.text = text ↔ ∀ c ∈ text.toList, c ∈ ['x', 'y', 'z', 'w']
  /-- Otherwise all of it is written in `rgba`. -/
  color_of_ne : s.text ≠ text → ∀ c ∈ text.toList, c ∈ ['r', 'g', 'b', 'a']

/-- How the text of a swizzle is got from the cells that it was read from, the parts of `rest`. -/
structure NormalisesCells (rest : List Char) (text : String) (s : Swizzle) : Prop where
  /-- Each cell is made normal. -/
  toList_eq : s.text.toList = (rest.splitOn '_').flatMap fun part => '_' :: normalCell part
  /-- The text stays the same exactly if its cells are zero-based. -/
  eq_iff : s.text = text ↔ ∀ part ∈ rest.splitOn '_', CellBase.zero.Forms part
  /-- Otherwise all of them are one-based. -/
  one_of_ne : s.text ≠ text → ∀ part ∈ rest.splitOn '_', CellBase.one.Forms part

/-- A text of letters is written back in the letters of the first set. -/
theorem normalisesLetters (h : set.Spells text) : NormalisesLetters text (set.swizzle text) := by
  have htext := toList_text_letters h
  have heq : (set.swizzle text).text = text ↔ ∀ c ∈ text.toList, c ∈ LetterSet.position.letters := by
    have hfixed : text.toList.map normalLetter = text.toList ↔
        ∀ c ∈ text.toList, normalLetter c = c := by
      simpa using (List.map_inj_left (f := normalLetter) (g := id) (l := text.toList))
    rw [← String.toList_inj, htext, hfixed]
    exact forall₂_congr fun c hc => normalLetter_eq_self_iff (h.mem c hc)
  refine ⟨htext, heq, fun hne => ?_⟩
  cases set with
  | position => exact absurd (heq.mpr h.mem) hne
  | color => exact h.mem

/-- A text of cells is written back in the zero base. -/
theorem normalisesCells (h : Spells base cells text) (htext : text.toList = '_' :: rest) :
    NormalisesCells rest text ⟨pack .matrix 0 (cells.map Cell.byte), cells.length, .matrix⟩ := by
  refine ⟨?toList, (text_eq_iff h).trans (forms_zero_iff h htext).symm, ?one⟩
  case toList =>
    obtain ⟨-, -, hparts⟩ := (spells_iff htext).mp h
    rw [toList_text_cells h, hparts, List.flatMap_map]
    apply List.flatMap_congr
    intro cell _
    rw [normalCell_chars]
  case one =>
    intro hne
    cases base with
    | zero => exact absurd ((text_eq_iff h).mpr rfl) hne
    | one => exact forms_of_spells h htext

end

/-- Writing is an inverse of reading on every swizzle that can be obtained, and reading a text and
writing the result makes the text normal. -/
theorem text_normalises (text : String) (s : Swizzle) :
    (Obtained s → ofText s.kind s.text = .ok s ∧ '?' ∉ s.text.toList) ∧
      (ofVectorText text = .ok s → NormalisesLetters text s) ∧
        (ofMatrixText text = .ok s →
          ∃ rest, text.toList = '_' :: rest ∧ NormalisesCells rest text s) := by
  refine ⟨fun hobtained => ?_, fun hread => ?_, fun hread => ?_⟩
  · obtain ⟨selectors, hpacked⟩ := obtained_iff.mp hobtained
    exact ⟨ofText_text hpacked, question_not_mem_text hpacked⟩
  · obtain ⟨set, hspells, rfl⟩ := ofVectorText_eq_ok_iff.mp hread
    exact normalisesLetters hspells
  · obtain ⟨base, cells, hspells⟩ := exists_spells_of_ok hread
    obtain ⟨rest, htext⟩ := hspells.exists_rest
    rw [ofMatrixText_of_spells hspells] at hread
    obtain rfl := Except.ok.inj hread
    exact ⟨rest, htext, normalisesCells hspells htext⟩

/-- `abba` is written as `wzzw` and read as the same swizzle again; `_14_21` is written in other
cells. -/
theorem text_normalises_abba :
    (∃ s, ofVectorText "abba" = .ok s ∧ s.text = "wzzw" ∧ ofText s.kind s.text = .ok s) ∧
      ∃ s, ofMatrixText "_14_21" = .ok s ∧ s.text ≠ "_14_21" := by
  have hvector : ofVectorText "abba" = .ok ⟨235, 4, .vector⟩ := by decide
  have hmatrix : ofMatrixText "_14_21" = .ok ⟨67, 2, .matrix⟩ := by decide
  obtain ⟨hback, hletters, -⟩ := text_normalises "abba" ⟨235, 4, .vector⟩
  obtain ⟨-, -, hcells⟩ := text_normalises "_14_21" ⟨67, 2, .matrix⟩
  obtain ⟨rest, htext, hnormal⟩ := hcells hmatrix
  refine ⟨⟨_, hvector, ?_, (hback (.ofVectorText hvector)).1⟩, _, hmatrix, ?_⟩
  · apply String.toList_inj.mp
    rw [(hletters hvector).toList_eq]
    decide
  · intro hsame
    obtain rfl : ['1', '4', '_', '2', '1'] = rest := by simpa using htext
    obtain ⟨⟨row, column⟩, hcell⟩ := hnormal.eq_iff.mp hsame ['1', '4'] (by decide)
    exact absurd (congrArg List.length hcell) (by simp [Cell.chars, CellBase.mark])

end ShaderDiagnostics.Swizzle
