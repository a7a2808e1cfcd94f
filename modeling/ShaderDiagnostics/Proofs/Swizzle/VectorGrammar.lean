import Mathlib
import ShaderDiagnostics.Proofs.Swizzle.RoundTrip
import ShaderDiagnostics.Proofs.Swizzle.Slots
/-!
# The grammar of vector swizzles

A text is accepted as a vector swizzle exactly if it is one to four letters of one set. Of any other
text the length is judged first, in characters; the error of a text of one to four characters is that
of its first misfit (`FirstMisfit`), a character that belongs to no set or to another set than the
first one (`ofVectorText_decides`).

The selectors that are read fit in four slots, which are filled from the front: a reader that fails
when it stores or looks beyond the last slot never does so (`readThroughSlots_eq`).
-/

namespace ShaderDiagnostics.Swizzle

/-! ## Misfits -/

/-- Character number `i` does not belong in the row, and an error says why. -/
inductive Misfit (letters : List Char) (i : ℕ) : Error → Prop where
  /-- It belongs to no set. -/
  | invalid (h : i < letters.length) (hnone : ∀ set : LetterSet, letters[i] ∉ set.letters) :
      Misfit letters i (.invalidComponent letters[i])
  /-- It belongs to another set than the first character. -/
  | mixed (h : i < letters.length) (set first : LetterSet) (hset : letters[i] ∈ set.letters)
      (hfirst : letters[0] ∈ first.letters) (hne : set ≠ first) : Misfit letters i .mixedSets

/-- Character number `i` is the first one that does not belong. -/
def FirstMisfit (letters : List Char) (i : ℕ) (e : Error) : Prop :=
  Misfit letters i e ∧ ∀ j < i, ∀ e', ¬ Misfit letters j e'

variable {letters : List Char} {i : ℕ} {e : Error} {set : LetterSet} {text : String} {s : Swizzle}

theorem Misfit.lt_length (h : Misfit letters i e) : i < letters.length := by
  cases h <;> assumption

/-- As long as no character is a misfit, the characters are letters of one set. -/
theorem mem_take_of_no_misfit (hlength : i ≤ letters.length)
    (h : ∀ j < i, ∀ e, ¬ Misfit letters j e) :
    ∃ set : LetterSet, ∀ c ∈ letters.take i, c ∈ set.letters := by
  have hbelongs : ∀ j, (hj : j < i) → ∃ set : LetterSet, letters[j] ∈ set.letters := by
    intro j hj
    by_contra hnone
    exact h j hj _ (.invalid (by omega) (not_exists.mp hnone))
  rcases Nat.eq_zero_or_pos i with rfl | hpos
  · exact ⟨.position, fun c hc => absurd hc List.not_mem_nil⟩
  obtain ⟨first, hfirst⟩ := hbelongs 0 hpos
  refine ⟨first, fun c hc => ?_⟩
  obtain ⟨j, hj, rfl⟩ := List.getElem_of_mem hc
  rw [List.length_take, Nat.min_eq_left hlength] at hj
  rw [List.getElem_take]
  obtain ⟨set, hset⟩ := hbelongs j hj
  by_cases heq : set = first
  · exact heq ▸ hset
  · exact absurd (.mixed (by omega) set first hset hfirst heq) (h j hj _)

/-- Characters are letters of one set, or one of them is the first misfit. -/
theorem mem_or_exists_firstMisfit (letters : List Char) :
    (∃ set : LetterSet, ∀ c ∈ letters, c ∈ set.letters) ∨ ∃ i e, FirstMisfit letters i e := by
  classical
  by_cases h : ∃ i, ∃ e, Misfit letters i e
  · right
    obtain ⟨e, he⟩ := Nat.find_spec h
    exact ⟨Nat.find h, e, he, fun j hj e' he' => Nat.find_min h hj ⟨e', he'⟩⟩
  · left
    have hnone : ∀ j, ∀ e, ¬ Misfit letters j e := fun j e he => h ⟨j, e, he⟩
    have hall := mem_take_of_no_misfit (Nat.le_refl letters.length) fun j _ => hnone j
    rwa [List.take_length] at hall

/-! ## Reading up to a misfit -/

/-- A misfit is refused behind letters of the set that the first character belongs to. -/
theorem readLetters_misfit {a : Char} {rest : List Char} (h : Misfit (a :: rest) i e)
    (hfirst : a ∈ set.letters) : readLetters (some set) ((a :: rest).drop i) = .error e := by
  rw [List.drop_eq_getElem_cons h.lt_length]
  cases h with
  | invalid _ hnone => exact readLetters_cons_of_not_mem hnone
  | mixed _ other first hother hfirst' hne =>
      obtain rfl := LetterSet.eq_of_mem hfirst hfirst'
      rw [readLetters_cons_of_mem hother, Option.any_some, if_pos (bne_iff_ne.mpr hne.symm)]

/-- The first misfit decides the error. -/
theorem readLetters_eq_error (h : FirstMisfit letters i e) : readLetters none letters = .error e := by
  have hlt := h.1.lt_length
  obtain ⟨set, hset⟩ := mem_take_of_no_misfit hlt.le h.2
  obtain ⟨a, rest, rfl⟩ := List.exists_cons_of_length_pos (i.zero_le.trans_lt hlt)
  cases i with
  | zero =>
      -- the first character differs from no other, so it belongs to no set
      cases h.1 with
      | invalid _ hnone => exact readLetters_cons_of_not_mem hnone
      | mixed _ set first hset hfirst hne => exact absurd (LetterSet.eq_of_mem hset hfirst) hne
  | succ i =>
      -- the characters before the misfit are read as letters of the first one's set
      have hfirst : a ∈ set.letters := hset a (by simp)
      rw [readLetters_none hfirst, ← List.take_append_drop (i + 1) (a :: rest),
        readLetters_append hset, readLetters_misfit h.1 hfirst]
      rfl

/-! ## Reading through slots -/

/-- Read letters into slots, from slot number `i` on. `none` is a store beyond the last slot. -/
def fillSlots : Slots → ℕ → Option LetterSet → List Char → Option (Except Error Slots)
  | slots, _, _, [] => some (.ok slots)
  | slots, i, active, c :: rest =>
    match vectorComponent? c with
    | none => some (.error (.invalidComponent c))
    | some (set, selector) =>
      if active.any (· != set) then some (.error .mixedSets)
      else (slots.store? i selector).bind fun slots => fillSlots slots (i + 1) (some set) rest

/-- Read a vector swizzle through slots. `none` is a store or a look beyond the last slot. -/
def readThroughSlots (text : String) : Option (Except Error Swizzle) :=
  let letters := text.toList
  if letters = [] then some (.error .empty)
  else if maxSlots < letters.length then some (.error (.tooManyComponents letters.length))
  else
    (fillSlots (Vector.replicate maxSlots 0) 0 none letters).bind fun
      | .error e => some (.error e)
      | .ok slots => (slots.front? letters.length).map (ofSelectors .vector)

/-- The slots take up the selectors of the letters, as long as there are slots enough. -/
theorem fillSlots_eq (slots : Slots) (active : Option LetterSet)
    (h : i + letters.length ≤ maxSlots) :
    fillSlots slots i active letters = some ((readLetters active letters).map (slots.fill i)) := by
  induction letters generalizing slots i active with
  | nil => rfl
  | cons c rest ih =>
      rw [List.length_cons] at h
      rw [fillSlots, readLetters]
      cases vectorComponent? c with
      | none => rfl
      | some component =>
          obtain ⟨set, selector⟩ := component
          by_cases hmixed : active.any (· != set)
          · simp only [hmixed, if_true]
            rfl
          · simp only [hmixed, Bool.false_eq_true, if_false]
            rw [slots.store?_of_lt (by omega), Option.bind_some, ih _ _ (by omega)]
            cases readLetters (some set) rest <;> rfl

/-- Whatever the text, no store and no look goes beyond the last slot. -/
theorem readThroughSlots_eq (text : String) : readThroughSlots text = some (ofVectorText text) := by
  rw [readThroughSlots, ofVectorText, ofLetters]
  by_cases hnil : text.toList = []
  · simp only [hnil, if_true]
  by_cases hlength : maxSlots < text.toList.length
  · simp only [hnil, hlength, if_true, if_false]
  simp only [hnil, hlength, if_false]
  rw [fillSlots_eq _ _ (by omega), Option.bind_some]
  cases hread : readLetters none text.toList with
  | error e => rfl
  | ok selectors =>
      have hcount : text.toList.length = selectors.length := by
        obtain ⟨set, -, rfl⟩ := (readLetters_eq_ok_iff hnil).mp hread
        exact (List.length_map ..).symm
      show (Slots.front? _ text.toList.length).map _ = _
      rw [hcount, Slots.front?_fill _ (hcount ▸ Nat.not_lt.mp hlength)]
      rfl

/-! ## What the reader decides -/

/-- A result is the right one for a text read as a vector swizzle. -/
structure DecidesVector (text : String) (result : Except Error Swizzle) : Prop where
  /-- It is a swizzle exactly if the text is one to four letters of one set. -/
  accepts : (∃ s, result = .ok s) ↔ ∃ set : LetterSet, set.Spells text
  /-- The swizzle selects the place of each letter in the set, in order. -/
  selects : ∀ (set : LetterSet) s, set.Spells text → result = .ok s →
    s.kind = .vector ∧ s.length = text.toList.length ∧
      s.selectors.map UInt32.toNat = text.toList.map fun c => set.letters.idxOf c
  empty : text = "" → result = .error .empty
  /-- More than four characters are refused for their number, whatever they are. -/
  tooMany : 4 < text.toList.length → result = .error (.tooManyComponents text.toList.length)
  /-- A shorter text that is no swizzle has a first misfit among its characters. -/
  misfit : text ≠ "" → text.toList.length ≤ 4 → (¬ ∃ set : LetterSet, set.Spells text) →
    ∃ i e, FirstMisfit text.toList i e
  /-- The first misfit decides the error. -/
  refuses : ∀ i e, text.toList.length ≤ 4 → FirstMisfit text.toList i e → result = .error e
  /-- No error speaks of a matrix cell or of a selector out of range. -/
  never : ∀ e, result = .error e →
    (∀ cell, e ≠ .malformedCell cell) ∧ ∀ selector kind, e ≠ .selectorOutOfRange selector kind

/-- More than four characters are refused for their number. -/
theorem ofVectorText_of_lt (h : 4 < text.toList.length) :
    ofVectorText text = .error (.tooManyComponents text.toList.length) := by
  have hne : text.toList ≠ [] := List.ne_nil_of_length_pos (by omega)
  rw [ofVectorText, ofLetters, if_neg hne, maxSlots, if_pos h]

/-- A text of one to four characters with a first misfit is refused for it. -/
theorem ofVectorText_of_firstMisfit (hle : text.toList.length ≤ 4)
    (h : FirstMisfit text.toList i e) : ofVectorText text = .error e := by
  have hlt := h.1.lt_length
  have hne : text.toList ≠ [] := List.ne_nil_of_length_pos (by omega)
  rw [ofVectorText, ofLetters, if_neg hne, maxSlots, if_neg (Nat.not_lt.mpr hle),
    readLetters_eq_error h]
  rfl

/-- A text is empty or too long, or it is letters of one set, or it has a first misfit. -/
theorem spells_or_refused (text : String) :
    text = "" ∨ 4 < text.toList.length ∨ (∃ set : LetterSet, set.Spells text) ∨
      (text.toList.length ≤ 4 ∧ ∃ i e, FirstMisfit text.toList i e) := by
  by_cases hempty : text = ""
  · exact .inl hempty
  have hne : text.toList ≠ [] := mt String.toList_eq_nil_iff.mp hempty
  rcases Nat.lt_or_ge 4 text.toList.length with hlt | hle
  · exact .inr (.inl hlt)
  rcases mem_or_exists_firstMisfit text.toList with ⟨set, hmem⟩ | hmisfit
  · exact .inr (.inr (.inl ⟨set, hne, hle, hmem⟩))
  · exact .inr (.inr (.inr ⟨hle, hmisfit⟩))

/-- No misfit speaks of a matrix cell or of a selector out of range. -/
theorem Misfit.never (h : Misfit letters i e) :
    (∀ cell, e ≠ .malformedCell cell) ∧ ∀ selector kind, e ≠ .selectorOutOfRange selector kind := by
  cases h <;> exact ⟨nofun, nofun⟩

/-- The swizzle that letters spell selects their places, in order. -/
theorem selectors_of_letters (h : set.Spells text) :
    (set.swizzle text).selectors.map UInt32.toNat =
      text.toList.map fun c => set.letters.idxOf c := by
  rw [LetterSet.swizzle, selectors_pack h.length_le h.byte_range, List.map_map]
  apply List.map_congr_left
  intro c hc
  exact LetterSet.byte_toNat (h.mem c hc)

/-- The reader decides the grammar and names the first fault, whatever the text, and no store or look
goes beyond its four slots. -/
theorem ofVectorText_decides (text : String) :
    DecidesVector text (ofVectorText text) ∧ readThroughSlots text = some (ofVectorText text) := by
  refine ⟨⟨?accepts, ?selects, ?empty, ofVectorText_of_lt, ?misfit, ?refuses, ?never⟩,
    readThroughSlots_eq text⟩
  case accepts =>
    constructor
    · rintro ⟨s, hs⟩
      exact exists_set_of_ok hs
    · rintro ⟨set, hset⟩
      exact ⟨_, ofVectorText_of_spells hset⟩
  case selects =>
    intro set s hset hs
    rw [ofVectorText_of_spells hset] at hs
    obtain rfl := Except.ok.inj hs
    exact ⟨rfl, List.length_map .., selectors_of_letters hset⟩
  case empty =>
    rintro rfl
    rfl
  case misfit =>
    intro hempty hle hspells
    rcases spells_or_refused text with h | hlt | h | ⟨-, hmisfit⟩
    · exact absurd h hempty
    · exact absurd hlt (Nat.not_lt.mpr hle)
    · exact absurd h hspells
    · exact hmisfit
  case refuses =>
    intro i e hle hmisfit
    exact ofVectorText_of_firstMisfit hle hmisfit
  case never =>
    intro e herror
    rcases spells_or_refused text with rfl | hlt | ⟨set, hset⟩ | ⟨hle, i, e', hmisfit⟩
    · obtain rfl : Error.empty = e := Except.error.inj herror
      exact ⟨nofun, nofun⟩
    · rw [ofVectorText_of_lt hlt] at herror
      obtain rfl := Except.error.inj herror
      exact ⟨nofun, nofun⟩
    · rw [ofVectorText_of_spells hset] at herror
      cases herror
    · rw [ofVectorText_of_firstMisfit hle hmisfit] at herror
      obtain rfl := Except.error.inj herror
      exact hmisfit.1.never

/-- Four characters of two bytes each are no more than four; the first one is already no letter. -/
example : ofVectorText "éxry" = .error (.invalidComponent 'é') ∧
    ofVectorText "xryé" = .error .mixedSets ∧ ofVectorText "éxryz" = .error (.tooManyComponents 5) := by
  decide

end ShaderDiagnostics.Swizzle
