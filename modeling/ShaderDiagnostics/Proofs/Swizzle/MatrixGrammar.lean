import Mathlib
import ShaderDiagnostics.Proofs.Swizzle.Cells
import ShaderDiagnostics.Proofs.Swizzle.Packing
import ShaderDiagnostics.Proofs.Swizzle.Slots
/-!
# The grammar of matrix swizzles

A text is accepted as a matrix swizzle exactly if it spells one to four cells in one base
(`Swizzle.Spells`). The error of any other text that starts with `_` is that of its first fault
(`Swizzle.FirstFault`): of the first part between underscores that is one too many, that has neither
form, or whose base is not that of the first part (`Swizzle.ofMatrixText_decides`).

The selectors that are read fit in four slots, since a fifth part is refused before it is looked at: a
reader that fails when it stores or looks beyond the last slot, or beyond the bytes of a part, never
does so (`Swizzle.readCellsThroughSlots_eq`).
-/

namespace ShaderDiagnostics.Swizzle

/-! ## The grammar -/

/-- A text spells a row of one to four cells in a base, each with `_` in front. -/
structure Spells (base : CellBase) (cells : List Cell) (text : String) : Prop where
  toList_eq : text.toList = cells.flatMap fun cell => '_' :: cell.chars base
  pos : 1 ≤ cells.length
  le : cells.length ≤ 4

/-- Part number `i` of a text is at fault, and an error says why. -/
inductive Fault (parts : List (List Char)) (i : ℕ) : Error → Prop where
  /-- There are four parts before it. -/
  | tooMany (h : i < parts.length) (hi : i = 4) : Fault parts i (.tooManyComponents parts.length)
  /-- It has neither form. -/
  | malformed (h : i < parts.length) (hi : i ≠ 4)
      (hforms : ∀ base : CellBase, ¬ base.Forms parts[i]) :
      Fault parts i (.malformedCell (String.ofList parts[i]))
  /-- It has a form, but not in the base of the first part. -/
  | mixed (h : i < parts.length) (hi : i ≠ 4) (base first : CellBase) (hbase : base.Forms parts[i])
      (hfirst : first.Forms parts[0]) (hne : base ≠ first) : Fault parts i .mixedSets

/-- Part number `i` is the first one at fault. -/
def FirstFault (parts : List (List Char)) (i : ℕ) (e : Error) : Prop :=
  Fault parts i e ∧ ∀ j < i, ∀ e', ¬ Fault parts j e'

variable {parts : List (List Char)} {i : ℕ} {e : Error} {base : CellBase} {cells : List Cell}

theorem Fault.lt_length (h : Fault parts i e) : i < parts.length := by
  cases h <;> assumption

/-- A fifth part is at fault whatever it is, so the first fault comes no later. -/
theorem FirstFault.le (h : FirstFault parts i e) : i ≤ 4 := by
  by_contra hlt
  have hlength := h.1.lt_length
  exact h.2 4 (by omega) _ (.tooMany (by omega) rfl)

/-! ## Parts without a fault -/

/-- Parts that have the form of a base spell cells. -/
theorem exists_cells_eq_map (h : ∀ part ∈ parts, base.Forms part) :
    ∃ cells : List Cell, parts = cells.map (Cell.chars base) := by
  induction parts with
  | nil => exact ⟨[], rfl⟩
  | cons part rest ih =>
      obtain ⟨⟨cell, rfl⟩, hrest⟩ := List.forall_mem_cons.mp h
      obtain ⟨cells, rfl⟩ := ih hrest
      exact ⟨cell :: cells, rfl⟩

/-- As long as no part is at fault, the parts are cells in one base. -/
theorem take_eq_map_of_no_fault (hi : i ≤ 4) (hlength : i ≤ parts.length)
    (h : ∀ j < i, ∀ e, ¬ Fault parts j e) :
    ∃ base, ∃ cells : List Cell, parts.take i = cells.map (Cell.chars base) := by
  have hform : ∀ j, (hj : j < i) → ∃ base : CellBase, base.Forms parts[j] := by
    intro j hj
    by_contra hforms
    exact h j hj _ (.malformed (by omega) (by omega) (not_exists.mp hforms))
  rcases Nat.eq_zero_or_pos i with rfl | hpos
  · exact ⟨.zero, [], rfl⟩
  obtain ⟨first, hfirst⟩ := hform 0 hpos
  refine ⟨first, exists_cells_eq_map fun part hpart => ?_⟩
  obtain ⟨j, hj, rfl⟩ := List.getElem_of_mem hpart
  rw [List.length_take, Nat.min_eq_left hlength] at hj
  rw [List.getElem_take]
  obtain ⟨base, hbase⟩ := hform j hj
  by_cases heq : base = first
  · exact heq ▸ hbase
  · exact absurd (.mixed (by omega) (by omega) base first hbase hfirst heq) (h j hj _)

/-- Parts are one to four cells in one base, or one of them is the first at fault. -/
theorem eq_map_or_exists_firstFault (parts : List (List Char)) :
    (∃ base, ∃ cells : List Cell, cells.length ≤ 4 ∧ parts = cells.map (Cell.chars base)) ∨
      ∃ i e, FirstFault parts i e := by
  classical
  by_cases h : ∃ i, ∃ e, Fault parts i e
  · right
    obtain ⟨e, he⟩ := Nat.find_spec h
    exact ⟨Nat.find h, e, he, fun j hj e' he' => Nat.find_min h hj ⟨e', he'⟩⟩
  · left
    have hnone : ∀ j, ∀ e, ¬ Fault parts j e := fun j e he => h ⟨j, e, he⟩
    have hlength : parts.length ≤ 4 := by
      by_contra hlt
      exact hnone 4 _ (.tooMany (by omega) rfl)
    obtain ⟨base, cells, hcells⟩ :=
      take_eq_map_of_no_fault hlength (Nat.le_refl _) fun j _ => hnone j
    rw [List.take_length] at hcells
    refine ⟨base, cells, ?_, hcells⟩
    rwa [hcells, List.length_map] at hlength

/-- The selectors of cells are in range. -/
theorem byte_range (cells : List Cell) :
    ∀ s ∈ cells.map Cell.byte, s.toNat < 2 ^ Kind.matrix.width := by
  intro s hs
  obtain ⟨cell, -, rfl⟩ := List.mem_map.mp hs
  rw [cell.byte_toNat]
  exact cell.selector_lt

/-! ## Reading parts -/

/-- Cells in the active base are taken one after another. -/
theorem readCells_active (total count : ℕ) (h : count + cells.length ≤ 4)
    (rest : List (List Char)) :
    readCells total count (some base) (cells.map (Cell.chars base) ++ rest) =
      (readCells total (count + cells.length) (some base) rest).map (cells.map Cell.byte ++ ·) := by
  induction cells generalizing count with
  | nil =>
      rw [List.map_nil, List.nil_append, List.length_nil, Nat.add_zero]
      cases readCells total count (some base) rest <;> rfl
  | cons cell cells ih =>
      rw [List.length_cons] at h
      rw [List.map_cons, List.cons_append, readCells, if_neg (by rw [maxSlots]; omega)]
      simp only [readCell_chars, Option.any_some, bne_self_eq_false, Bool.false_eq_true, if_false]
      rw [ih (count + 1) (by omega), List.length_cons, show count + 1 + cells.length =
        count + (cells.length + 1) by omega]
      cases readCells total (count + (cells.length + 1)) (some base) rest <;> rfl

/-- Up to four cells in one base are taken from the start; the first one makes its base active. -/
theorem readCells_cells (base : CellBase) (total : ℕ) (h : cells.length ≤ 4)
    (rest : List (List Char)) :
    readCells total 0 none (cells.map (Cell.chars base) ++ rest) =
      (readCells total cells.length (cells.head?.map fun _ => base) rest).map
        (cells.map Cell.byte ++ ·) := by
  cases cells with
  | nil =>
      rw [List.map_nil, List.nil_append, List.length_nil, List.head?_nil, Option.map_none]
      cases readCells total 0 none rest <;> rfl
  | cons cell cells =>
      rw [List.length_cons] at h
      rw [List.map_cons, List.cons_append, readCells, if_neg (by decide)]
      simp only [readCell_chars, Option.any_none, Bool.false_eq_true, if_false]
      rw [readCells_active total (0 + 1) (by omega), List.length_cons, List.head?_cons,
        Option.map_some, show 0 + 1 + cells.length = cells.length + 1 by omega]
      cases readCells total (cells.length + 1) (some base) rest <;> rfl

/-- Up to four cells in one base make no error. -/
theorem readCells_eq_ok (total : ℕ) (h : cells.length ≤ 4) :
    readCells total 0 none (cells.map (Cell.chars base)) = .ok (cells.map Cell.byte) := by
  have hread := readCells_cells base total h []
  rw [List.append_nil, readCells] at hread
  rw [hread]
  exact congrArg Except.ok (List.append_nil _)

/-- A fifth cell is refused before it is looked at. -/
theorem readCells_tooMany (total : ℕ) (active : Option CellBase) (part : List Char)
    (rest : List (List Char)) :
    readCells total 4 active (part :: rest) = .error (.tooManyComponents total) := by
  rw [readCells, maxSlots, if_pos rfl]

/-- A cell without a form is refused as a whole, if it is not the fifth. -/
theorem readCells_malformed (total : ℕ) {count : ℕ} (active : Option CellBase) {part : List Char}
    (rest : List (List Char)) (hcount : count ≠ 4) (h : ∀ base : CellBase, ¬ base.Forms part) :
    readCells total count active (part :: rest) = .error (.malformedCell (String.ofList part)) := by
  rw [readCells, maxSlots, if_neg hcount, readCell_of_not_forms h]

/-- A cell in another base than the active one is refused as mixed, if it is not the fifth. -/
theorem readCells_mixed (total : ℕ) {count : ℕ} {active : CellBase} (cell : Cell)
    (rest : List (List Char)) (hcount : count ≠ 4) (h : base ≠ active) :
    readCells total count (some active) (cell.chars base :: rest) = .error .mixedSets := by
  rw [readCells, maxSlots, if_neg hcount, readCell_chars]
  exact if_pos (by simpa using h.symm)

/-- The first fault decides the error. -/
theorem readCells_eq_error (h : FirstFault parts i e) :
    readCells parts.length 0 none parts = .error e := by
  have hle := h.le
  have hlt := h.1.lt_length
  obtain ⟨base, cells, hcells⟩ := take_eq_map_of_no_fault hle hlt.le h.2
  have hlength : cells.length = i := by
    have := congrArg List.length hcells
    rw [List.length_take, List.length_map] at this
    omega
  -- the parts before the fault are taken as cells
  have hsplit : parts = cells.map (Cell.chars base) ++ parts[i] :: parts.drop (i + 1) := by
    rw [← hcells, ← List.drop_eq_getElem_cons hlt, List.take_append_drop]
  have hread := readCells_cells base parts.length (hlength.trans_le hle)
    (parts[i] :: parts.drop (i + 1))
  rw [← hsplit, hlength] at hread
  rw [hread]
  cases h.1 with
  | tooMany _ hi => subst hi; rw [readCells_tooMany]; rfl
  | malformed _ hi hforms => rw [readCells_malformed _ _ _ hi hforms]; rfl
  | mixed _ hi base' first hbase hfirst hne =>
      obtain ⟨cell', hcell'⟩ := hbase
      obtain ⟨cell₀, hcell₀⟩ := hfirst
      cases cells with
      | nil =>
          -- the first part itself differs from no other
          obtain rfl : i = 0 := hlength.symm
          exact absurd (base_eq_of_chars_eq (hcell'.symm.trans hcell₀)) hne
      | cons cell cells =>
          have hzero : parts[0] = cell.chars base := by
            have := congrArg List.head? hsplit
            rw [List.head?_eq_getElem?, List.getElem?_eq_getElem (by omega)] at this
            exact Option.some.inj this
          obtain rfl := base_eq_of_chars_eq (hcell₀.symm.trans hzero)
          rw [hcell', List.head?_cons, Option.map_some, readCells_mixed _ _ _ hi hne]
          rfl

/-! ## Reading through slots -/

/-- Read cells into slots, from slot number `count` on, with every byte looked up by its place. The
answer is the slots and how many of them are filled. `none` is a store beyond the last slot, or a look
beyond the last byte of a cell. -/
def fillCells (total : ℕ) :
    Slots → ℕ → Option CellBase → List (List Char) → Option (Except Error (Slots × ℕ))
  | slots, count, _, [] => some (.ok (slots, count))
  | slots, count, active, cell :: rest =>
    if count = maxSlots then some (.error (.tooManyComponents total))
    else
      (lookAtCell cell).bind fun
        | .error e => some (.error e)
        | .ok (base, selector) =>
          if active.any (· != base) then some (.error .mixedSets)
          else
            (slots.store? count selector).bind fun slots =>
              fillCells total slots (count + 1) (some base) rest

/-- Read a matrix swizzle through slots. `none` is a store or a look beyond the last slot, or a look
beyond the last byte of a cell. -/
def readCellsThroughSlots (text : String) : Option (Except Error Swizzle) :=
  match text.toList with
  | [] => some (.error .empty)
  | '_' :: rest =>
    let cells := rest.splitOn '_'
    (fillCells cells.length (Vector.replicate maxSlots 0) 0 none cells).bind fun
      | .error e => some (.error e)
      | .ok (slots, count) => (slots.front? count).map (ofSelectors .matrix)
  | unmarked => some (.error (.malformedCell (String.ofList unmarked)))

/-- No more selectors are read than there are slots left. -/
theorem add_length_le_of_readCells {total count : ℕ} {active : Option CellBase}
    {selectors : List UInt8} (hcount : count ≤ maxSlots)
    (h : readCells total count active parts = .ok selectors) :
    count + selectors.length ≤ maxSlots := by
  induction parts generalizing count active selectors with
  | nil =>
      obtain rfl := Except.ok.inj h
      exact hcount
  | cons part rest ih =>
      rw [readCells] at h
      split_ifs at h with hfull
      cases hcell : readCell part with
      | error e => simp only [hcell, reduceCtorEq] at h
      | ok found =>
          simp only [hcell] at h
          split_ifs at h with hmixed
          cases hrest : readCells total (count + 1) (some found.1) rest with
          | error e => rw [hrest] at h; cases h
          | ok others =>
              rw [hrest] at h
              obtain rfl := Except.ok.inj h
              have hlast := ih (by omega) hrest
              rw [List.length_cons]
              omega

/-- The slots take up the selectors of the cells, and every store finds its slot. -/
theorem fillCells_eq (total : ℕ) (slots : Slots) (active : Option CellBase) {count : ℕ}
    (hcount : count ≤ maxSlots) :
    fillCells total slots count active parts =
      some ((readCells total count active parts).map fun selectors =>
        (slots.fill count selectors, count + selectors.length)) := by
  induction parts generalizing slots count active with
  | nil => rfl
  | cons part rest ih =>
      rw [fillCells, readCells, lookAtCell_eq, Option.bind_some]
      by_cases hfull : count = maxSlots
      · rw [if_pos hfull, if_pos hfull]
        rfl
      rw [if_neg hfull, if_neg hfull]
      cases readCell part with
      | error e => rfl
      | ok found =>
          obtain ⟨base, selector⟩ := found
          by_cases hmixed : active.any (· != base)
          · simp only [hmixed, if_true]
            rfl
          · simp only [hmixed, Bool.false_eq_true, if_false]
            rw [slots.store?_of_lt (by omega), Option.bind_some, ih _ _ (by omega)]
            cases readCells total (count + 1) (some base) rest with
            | error e => rfl
            | ok selectors =>
                have hlength : count + 1 + selectors.length = count + (selectors.length + 1) := by
                  omega
                simp only [Except.map, Slots.fill, List.length_cons, hlength]

/-- Whatever the text, no store and no look goes beyond the last slot or the last byte of a cell. -/
theorem readCellsThroughSlots_eq (text : String) :
    readCellsThroughSlots text = some (ofMatrixText text) := by
  rw [readCellsThroughSlots, ofMatrixText]
  generalize text.toList = chars
  split
  case h_1 => rfl
  case h_2 rest =>
    rw [ofCells]
    show (fillCells _ _ _ _ (rest.splitOn '_')).bind _ = some (Except.bind _ _)
    rw [fillCells_eq _ _ _ (Nat.zero_le _), Option.bind_some]
    cases hread : readCells (rest.splitOn '_').length 0 none (rest.splitOn '_') with
    | error e => rfl
    | ok selectors =>
        have hroom := add_length_le_of_readCells (Nat.zero_le _) hread
        rw [Nat.zero_add] at hroom
        show (Slots.front? _ (0 + selectors.length)).map _ = _
        rw [Nat.zero_add, Slots.front?_fill _ hroom]
        rfl
  case h_3 hnil hcons => rw [ofCells.eq_3 _ hnil hcons]

/-! ## Parts and texts -/

/-- Parts with a separator in front of each. -/
theorem cons_intercalate (h : parts ≠ []) :
    '_' :: ['_'].intercalate parts = parts.flatMap ('_' :: ·) := by
  induction parts with
  | nil => exact absurd rfl h
  | cons part rest ih =>
      cases rest with
      | nil => simp
      | cons next rest =>
          rw [List.intercalate_cons_cons, List.flatMap_cons, ← ih (List.cons_ne_nil _ _)]
          simp

theorem map_chars_ne_nil (h : 1 ≤ cells.length) : cells.map (Cell.chars base) ≠ [] := by
  intro hnil
  rw [List.map_eq_nil_iff.mp hnil] at h
  exact absurd h (by decide)

/-- Cells with `_` in front of each are the parts that the characters behind the first `_` split
into. -/
theorem cons_eq_flatMap_iff {rest : List Char} (hpos : 1 ≤ cells.length) :
    ('_' :: rest = cells.flatMap fun cell => '_' :: cell.chars base) ↔
      rest.splitOn '_' = cells.map (Cell.chars base) := by
  have hflat : cells.flatMap (fun cell => '_' :: cell.chars base) =
      (cells.map (Cell.chars base)).flatMap ('_' :: ·) := by
    rw [List.flatMap_map]
  rw [hflat]
  constructor
  · intro hrest
    rw [← cons_intercalate (map_chars_ne_nil hpos), List.cons_inj_right] at hrest
    rw [hrest, List.splitOn_intercalate _ _ (map_chars_ne_nil hpos)]
    intro part hpart
    obtain ⟨cell, -, rfl⟩ := List.mem_map.mp hpart
    exact separator_not_mem_chars base cell
  · intro hparts
    rw [← hparts, ← cons_intercalate (List.splitOn_ne_nil _ _), List.intercalate_splitOn]

/-- A text spells cells exactly if they are the parts that it splits into. -/
theorem spells_iff {text : String} {rest : List Char} (htext : text.toList = '_' :: rest) :
    Spells base cells text ↔
      1 ≤ cells.length ∧ cells.length ≤ 4 ∧ rest.splitOn '_' = cells.map (Cell.chars base) := by
  constructor
  · rintro ⟨hspells, hpos, hle⟩
    exact ⟨hpos, hle, (cons_eq_flatMap_iff hpos).mp (htext.symm.trans hspells)⟩
  · rintro ⟨hpos, hle, hparts⟩
    exact ⟨htext.trans ((cons_eq_flatMap_iff hpos).mpr hparts), hpos, hle⟩

/-- A text that spells cells starts with their mark. -/
theorem Spells.exists_rest {text : String} (h : Spells base cells text) :
    ∃ rest, text.toList = '_' :: rest := by
  obtain ⟨htext, hpos, -⟩ := h
  cases cells with
  | nil => exact absurd hpos (by decide)
  | cons cell cells => exact ⟨_, htext⟩

/-! ## Texts -/

/-- A text that spells cells gives the swizzle that selects them. -/
theorem ofMatrixText_of_spells {text : String} (h : Spells base cells text) :
    ofMatrixText text =
      .ok ⟨pack .matrix 0 (cells.map Cell.byte), cells.length, .matrix⟩ := by
  obtain ⟨rest, htext⟩ := h.exists_rest
  obtain ⟨hpos, hle, hparts⟩ := (spells_iff htext).mp h
  have hpacked : ofSelectors .matrix (cells.map Cell.byte) =
      .ok ⟨pack .matrix 0 (cells.map Cell.byte), (cells.map Cell.byte).length, .matrix⟩ := by
    refine ofSelectors_eq_ok ?_ (by rwa [List.length_map]) (byte_range cells)
    rw [ne_eq, List.map_eq_nil_iff, ← List.length_eq_zero_iff]
    omega
  rw [ofMatrixText, htext, ofCells, hparts, readCells_eq_ok _ hle]
  rwa [List.length_map] at hpacked

/-- A text whose parts have a first fault is refused for it. -/
theorem ofMatrixText_of_firstFault {text : String} {rest : List Char}
    (htext : text.toList = '_' :: rest) (h : FirstFault (rest.splitOn '_') i e) :
    ofMatrixText text = .error e := by
  rw [ofMatrixText, htext, ofCells, readCells_eq_error h]
  rfl

/-- There is no third possibility. -/
theorem spells_or_firstFault {text : String} {rest : List Char} (htext : text.toList = '_' :: rest) :
    (∃ base cells, Spells base cells text) ∨ ∃ i e, FirstFault (rest.splitOn '_') i e := by
  rcases eq_map_or_exists_firstFault (rest.splitOn '_') with ⟨base, cells, hle, hparts⟩ | hfault
  · left
    refine ⟨base, cells, (spells_iff htext).mpr ⟨?_, hle, hparts⟩⟩
    rw [← List.length_map (Cell.chars base), ← hparts]
    exact List.length_pos_of_ne_nil (List.splitOn_ne_nil _ _)
  · exact .inr hfault

/-! ## What the reader decides -/

/-- A result is the right one for a text read as a matrix swizzle. -/
structure DecidesMatrix (text : String) (result : Except Error Swizzle) : Prop where
  /-- It is a swizzle exactly if the text spells cells. -/
  accepts : (∃ s, result = .ok s) ↔ ∃ base cells, Spells base cells text
  /-- The swizzle selects the cells that are spelt, in order. -/
  selects : ∀ base cells s, Spells base cells text → result = .ok s →
    s.kind = .matrix ∧ s.length = cells.length ∧
      s.selectors.map UInt32.toNat = cells.map Cell.selector
  empty : text = "" → result = .error .empty
  /-- A text without `_` at the front is refused as a whole. -/
  unmarked : text ≠ "" → text.toList.head? ≠ some '_' → result = .error (.malformedCell text)
  /-- Any other text that is no swizzle has a first fault among its parts, at most the fifth. -/
  faulty : ∀ rest, text.toList = '_' :: rest → (¬ ∃ base cells, Spells base cells text) →
    ∃ i ≤ 4, ∃ e, FirstFault (rest.splitOn '_') i e
  /-- The first fault decides the error. -/
  refuses : ∀ rest i e, text.toList = '_' :: rest → FirstFault (rest.splitOn '_') i e →
    result = .error e
  /-- No error speaks of a vector component or of a selector out of range. -/
  never : ∀ e, result = .error e →
    (∀ c, e ≠ .invalidComponent c) ∧ ∀ selector kind, e ≠ .selectorOutOfRange selector kind

/-- The swizzle that is packed from cells selects them, in order. -/
theorem selectors_of_cells (h : cells.length ≤ 4) :
    (Swizzle.selectors ⟨pack .matrix 0 (cells.map Cell.byte), cells.length, .matrix⟩).map
      UInt32.toNat = cells.map Cell.selector := by
  have hpacked := selectors_pack (by rwa [List.length_map]) (byte_range cells)
  rw [List.length_map] at hpacked
  rw [hpacked, List.map_map]
  exact List.map_congr_left fun cell _ => cell.byte_toNat

/-- A text without `_` at the front is refused before it is split. -/
theorem ofMatrixText_of_head_ne {text : String} (hne : text ≠ "")
    (h : text.toList.head? ≠ some '_') : ofMatrixText text = .error (.malformedCell text) := by
  rw [ofMatrixText]
  cases htext : text.toList with
  | nil => exact absurd (String.toList_eq_nil_iff.mp htext) hne
  | cons c rest =>
      rw [htext, List.head?_cons, ne_eq, Option.some_inj] at h
      rw [ofCells.eq_3 _ (List.cons_ne_nil _ _) (by simpa using h), ← htext, String.ofList_toList]

/-- The ways for a text to begin. -/
theorem empty_or_head_ne_or_cons (text : String) :
    text = "" ∨ (text ≠ "" ∧ text.toList.head? ≠ some '_') ∨
      ∃ rest, text.toList = '_' :: rest := by
  cases htext : text.toList with
  | nil => exact .inl (String.toList_eq_nil_iff.mp htext)
  | cons c rest =>
      by_cases hc : c = '_'
      · exact .inr (.inr ⟨rest, by rw [hc]⟩)
      · refine .inr (.inl ⟨?_, ?_⟩)
        · rintro rfl
          cases htext
        · simpa using hc

/-- Only cells are accepted. -/
theorem exists_spells_of_ok {text : String} {s : Swizzle} (h : ofMatrixText text = .ok s) :
    ∃ base cells, Spells base cells text := by
  rcases empty_or_head_ne_or_cons text with rfl | ⟨hne, hhead⟩ | ⟨rest, htext⟩
  · cases h
  · rw [ofMatrixText_of_head_ne hne hhead] at h
    cases h
  · rcases spells_or_firstFault htext with hspells | ⟨i, e, hfault⟩
    · exact hspells
    · rw [ofMatrixText_of_firstFault htext hfault] at h
      cases h

/-- No fault speaks of a vector component or of a selector out of range. -/
theorem Fault.never (h : Fault parts i e) :
    (∀ c, e ≠ .invalidComponent c) ∧ ∀ selector kind, e ≠ .selectorOutOfRange selector kind := by
  cases h <;> exact ⟨nofun, nofun⟩

theorem never_of_error {text : String} (h : ofMatrixText text = .error e) :
    (∀ c, e ≠ .invalidComponent c) ∧ ∀ selector kind, e ≠ .selectorOutOfRange selector kind := by
  rcases empty_or_head_ne_or_cons text with rfl | ⟨hne, hhead⟩ | ⟨rest, htext⟩
  · obtain rfl : Error.empty = e := Except.error.inj h
    exact ⟨nofun, nofun⟩
  · rw [ofMatrixText_of_head_ne hne hhead] at h
    obtain rfl := Except.error.inj h
    exact ⟨nofun, nofun⟩
  · rcases spells_or_firstFault htext with ⟨base, cells, hspells⟩ | ⟨i, e', hfault⟩
    · rw [ofMatrixText_of_spells hspells] at h
      cases h
    · rw [ofMatrixText_of_firstFault htext hfault] at h
      obtain rfl := Except.error.inj h
      exact hfault.1.never

/-- The reader decides the grammar and names the first fault, whatever the text. No look at the bytes
of a cell goes beyond them, whatever the cell, and no store or look goes beyond the four slots. -/
theorem ofMatrixText_decides (text : String) :
    DecidesMatrix text (ofMatrixText text) ∧ (∀ cell, lookAtCell cell = some (readCell cell)) ∧
      readCellsThroughSlots text = some (ofMatrixText text) := by
  refine ⟨⟨?accepts, ?selects, ?empty, ?unmarked, ?faulty, ?refuses, ?never⟩, lookAtCell_eq,
    readCellsThroughSlots_eq text⟩
  case accepts =>
    constructor
    · rintro ⟨s, hs⟩
      exact exists_spells_of_ok hs
    · rintro ⟨base, cells, hspells⟩
      exact ⟨_, ofMatrixText_of_spells hspells⟩
  case selects =>
    intro base cells s hspells hs
    rw [ofMatrixText_of_spells hspells] at hs
    obtain rfl := Except.ok.inj hs
    exact ⟨rfl, rfl, selectors_of_cells hspells.le⟩
  case empty =>
    rintro rfl
    rfl
  case unmarked => exact ofMatrixText_of_head_ne
  case faulty =>
    intro rest htext hspells
    obtain ⟨i, e, hfault⟩ := (spells_or_firstFault htext).resolve_left hspells
    exact ⟨i, hfault.le, e, hfault⟩
  case refuses =>
    intro rest i e htext hfault
    exact ofMatrixText_of_firstFault htext hfault
  case never =>
    intro e h
    exact never_of_error h

/-- One character of two bytes has the length of two digits and is refused for its form. -/
example : ofMatrixText "_m00_é_11_11_11" = .error (.malformedCell "é") := by
  decide

end ShaderDiagnostics.Swizzle
