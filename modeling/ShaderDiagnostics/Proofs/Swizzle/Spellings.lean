import Mathlib
import ShaderDiagnostics.Proofs.Swizzle.Letters
import ShaderDiagnostics.Proofs.Swizzle.MatrixGrammar
/-!
# The two spellings of a swizzle

The components of a vector have a letter in each of two sets, and the cells of a matrix a form in each
of two bases. Which of the two a text uses makes no difference to what is read (`ofText_respelled`):
a text that is refused in the one spelling is refused in the other for the same reason, whatever its
characters are and however many cells it has.
-/

namespace ShaderDiagnostics.Swizzle

/-! ## Letters -/

/-- The letter of the same component in the other set. A character of neither set stays. -/
def exchange : Char → Char
  | 'x' => 'r'
  | 'y' => 'g'
  | 'z' => 'b'
  | 'w' => 'a'
  | 'r' => 'x'
  | 'g' => 'y'
  | 'b' => 'z'
  | 'a' => 'w'
  | c => c

namespace LetterSet

/-- The other set. -/
def other : LetterSet → LetterSet
  | position => color
  | color => position

variable {set : LetterSet} {c : Char}

/-- Exchanging the sets keeps different sets different. -/
theorem other_bne_other (set set' : LetterSet) : (set.other != set'.other) = (set != set') := by
  cases set <;> cases set' <;> rfl

/-- A letter is exchanged for one of the other set, in the same place. -/
theorem exchange_mem_and_byte (h : c ∈ set.letters) :
    exchange c ∈ set.other.letters ∧ set.other.byte (exchange c) = set.byte c := by
  cases set <;>
    simp only [letters, List.mem_cons, List.not_mem_nil, or_false] at h <;>
    rcases h with rfl | rfl | rfl | rfl <;> decide

end LetterSet

/-- A character that belongs to no set stays as it is. -/
theorem exchange_of_not_mem {c : Char} (h : ∀ set : LetterSet, c ∉ set.letters) :
    exchange c = c := by
  have hposition := h .position
  have hcolor := h .color
  simp only [LetterSet.letters, List.mem_cons, List.not_mem_nil, or_false, not_or] at hposition hcolor
  unfold exchange
  split <;> simp_all

/-- Exchanged letters are read as before, with the other set active if one was. -/
theorem readLetters_exchange (active : Option LetterSet) (letters : List Char) :
    readLetters (active.map LetterSet.other) (letters.map exchange) =
      readLetters active letters := by
  induction letters generalizing active with
  | nil => rfl
  | cons c rest ih =>
      rw [List.map_cons]
      by_cases hc : ∃ set : LetterSet, c ∈ set.letters
      · obtain ⟨set, hset⟩ := hc
        obtain ⟨hmem, hbyte⟩ := LetterSet.exchange_mem_and_byte hset
        have hrest := ih (some set)
        rw [Option.map_some] at hrest
        rw [readLetters_cons_of_mem hset, readLetters_cons_of_mem hmem, hbyte, hrest,
          Option.any_map]
        simp only [LetterSet.other_bne_other]
      -- a character of neither set is refused as it stands
      · have hnone := not_exists.mp hc
        rw [exchange_of_not_mem hnone, readLetters_cons_of_not_mem hnone,
          readLetters_cons_of_not_mem hnone]

/-- Letters are read alike in both sets, and so is any other text. -/
theorem ofVectorText_exchange (text : String) :
    ofVectorText (text.map exchange) = ofVectorText text := by
  have hread := readLetters_exchange none text.toList
  rw [Option.map_none] at hread
  rw [ofVectorText, ofVectorText, String.toList_map, ofLetters, ofLetters, hread, List.length_map]
  simp only [List.map_eq_nil_iff]

/-! ## Cells -/

/-- The text of a row of cells in a base, each with `_` in front. -/
def spelling (base : CellBase) (cells : List Cell) : String :=
  String.ofList (cells.flatMap fun cell => '_' :: cell.chars base)

variable {base : CellBase} {cells : List Cell}

/-- What a row of cells in one base is read as, by their number. -/
theorem readCells_map_chars (base : CellBase) (total : ℕ) (cells : List Cell) :
    readCells total 0 none (cells.map (Cell.chars base)) =
      if cells.length ≤ 4 then .ok (cells.map Cell.byte) else .error (.tooManyComponents total) := by
  split_ifs with hlength
  · exact readCells_eq_ok total hlength
  · have htake : (cells.take 4).length = 4 := by
      rw [List.length_take]
      omega
    obtain ⟨fifth, rest, hdrop⟩ : ∃ fifth rest, cells.drop 4 = fifth :: rest := by
      apply List.exists_cons_of_length_pos
      rw [List.length_drop]
      omega
    -- four cells are taken, and the fifth one is refused
    rw [← List.take_append_drop 4 cells, List.map_append, hdrop, List.map_cons,
      readCells_cells base total htake.le, htake, readCells_tooMany]
    rfl

/-- The text of cells splits into the cells. -/
theorem ofMatrixText_spelling (base : CellBase) (hpos : 1 ≤ cells.length) :
    ofMatrixText (spelling base cells) =
      (readCells cells.length 0 none (cells.map (Cell.chars base))).bind (ofSelectors .matrix) := by
  obtain ⟨rest, hrest⟩ : ∃ rest, (cells.flatMap fun cell => '_' :: cell.chars base) = '_' :: rest := by
    obtain ⟨cell, more, rfl⟩ := List.exists_cons_of_length_pos hpos
    exact ⟨_, rfl⟩
  have hparts := (cons_eq_flatMap_iff hpos).mp hrest.symm
  rw [ofMatrixText, spelling, String.toList_ofList, hrest, ofCells, hparts, List.length_map]

/-- **The spelling does not matter.** A text with each letter exchanged for that of the other set is
read as the text itself, and a row of cells, of whatever length, is read alike in both bases. -/
theorem ofText_respelled :
    (∀ text : String, ofVectorText (text.map exchange) = ofVectorText text) ∧
      ∀ cells : List Cell,
        ofMatrixText (spelling .zero cells) = ofMatrixText (spelling .one cells) := by
  refine ⟨ofVectorText_exchange, ?_⟩
  intro cells
  rcases Nat.eq_zero_or_pos cells.length with hnil | hpos
  · rw [List.length_eq_zero_iff.mp hnil]
    rfl
  · rw [ofMatrixText_spelling .zero hpos, ofMatrixText_spelling .one hpos, readCells_map_chars,
      readCells_map_chars]

/-- Two cells in both bases; and letters of both sets, with a character of neither. -/
example : spelling .zero [⟨1, 2⟩, ⟨0, 3⟩] = "_m12_m03" ∧ spelling .one [⟨1, 2⟩, ⟨0, 3⟩] = "_23_14" ∧
    "xrq".map exchange = "rxq" := by
  decide +kernel

end ShaderDiagnostics.Swizzle
