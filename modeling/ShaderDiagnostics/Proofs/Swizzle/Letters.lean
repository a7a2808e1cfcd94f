import Mathlib
import ShaderDiagnostics.Proofs.Swizzle.Packing
import ShaderDiagnostics.Swizzle.Vector
/-!
# The letters of a vector swizzle

A text is accepted as a vector swizzle exactly if it is one to four letters of one set
(`LetterSet.Spells`), and it then selects the place of each letter in the set
(`ofVectorText_eq_ok_iff`). No letter belongs to both sets, so the set of the first letter is the
only one that the others can belong to.
-/

namespace ShaderDiagnostics.Swizzle

/-! ## Places of letters -/

namespace LetterSet

variable {set : LetterSet} {c : Char}

/-- The place of a letter in its set, as a selector. -/
def byte (set : LetterSet) (c : Char) : UInt8 :=
  UInt8.ofNat (set.letters.idxOf c)

theorem length_letters (set : LetterSet) : set.letters.length = 4 := by
  cases set <;> rfl

theorem idxOf_lt (h : c ∈ set.letters) : set.letters.idxOf c < 4 := by
  rw [← set.length_letters]
  exact List.idxOf_lt_length_iff.mpr h

/-- The selector of a letter is its place in the set. -/
theorem byte_toNat (h : c ∈ set.letters) : (set.byte c).toNat = set.letters.idxOf c := by
  have hlt : set.letters.idxOf c < UInt8.size := (idxOf_lt h).trans (by decide)
  exact UInt8.toNat_ofNat_of_lt' hlt

/-- Different letters of a set have different selectors. -/
theorem byte_inj {a b : Char} (ha : a ∈ set.letters) (hb : b ∈ set.letters) :
    set.byte a = set.byte b ↔ a = b := by
  rw [← UInt8.toNat_inj, byte_toNat ha, byte_toNat hb]
  exact List.idxOf_inj ha

/-- No letter belongs to both sets. -/
theorem eq_of_mem {other : LetterSet} (h : c ∈ set.letters) (h' : c ∈ other.letters) :
    set = other := by
  have hdisjoint : ∀ a ∈ position.letters, a ∉ color.letters := by simp [letters]
  cases set <;> cases other
  · rfl
  · exact absurd h' (hdisjoint c h)
  · exact absurd h (hdisjoint c h')
  · rfl

theorem selector?_of_mem (h : c ∈ set.letters) : set.selector? c = some (set.byte c) := by
  rw [selector?, byte, List.idxOf_eq_getD_idxOf?]
  cases hplace : set.letters.idxOf? c with
  | none => exact absurd h (List.idxOf?_eq_none_iff.mp hplace)
  | some i => rfl

theorem selector?_of_not_mem (h : c ∉ set.letters) : set.selector? c = none := by
  rw [selector?, List.idxOf?_eq_none_iff.mpr h]
  rfl

end LetterSet

/-- A letter stands for the component of its place. -/
theorem vectorComponent?_of_mem {c : Char} {set : LetterSet} (h : c ∈ set.letters) :
    vectorComponent? c = some (set, set.byte c) := by
  cases set with
  | position => simp [vectorComponent?, LetterSet.selector?_of_mem h]
  | color =>
      have hposition : c ∉ LetterSet.position.letters := by
        intro hc
        cases LetterSet.eq_of_mem hc h
      simp [vectorComponent?, LetterSet.selector?_of_mem h,
        LetterSet.selector?_of_not_mem hposition]

/-- A character that belongs to no set stands for nothing. -/
theorem vectorComponent?_of_not_mem {c : Char} (h : ∀ set : LetterSet, c ∉ set.letters) :
    vectorComponent? c = none := by
  simp [vectorComponent?, LetterSet.selector?_of_not_mem (h _)]

/-! ## Reading letters -/

variable {active : Option LetterSet} {set : LetterSet} {c : Char} {rest letters : List Char}
  {selectors : List UInt8}

/-- A letter is taken unless it is mixed with another set. -/
theorem readLetters_cons_of_mem (h : c ∈ set.letters) :
    readLetters active (c :: rest) =
      if active.any (· != set) then .error .mixedSets
      else (readLetters (some set) rest).map (set.byte c :: ·) := by
  rw [readLetters, vectorComponent?_of_mem h]

/-- A character that belongs to no set is refused as such. -/
theorem readLetters_cons_of_not_mem (h : ∀ set : LetterSet, c ∉ set.letters) :
    readLetters active (c :: rest) = .error (.invalidComponent c) := by
  rw [readLetters, vectorComponent?_of_not_mem h]

/-- Letters of the active set are read as their places, and what follows them is read after them. -/
theorem readLetters_append (h : ∀ c ∈ letters, c ∈ set.letters) (rest : List Char) :
    readLetters (some set) (letters ++ rest) =
      (readLetters (some set) rest).map (letters.map set.byte ++ ·) := by
  induction letters with
  | nil =>
      rw [List.nil_append]
      cases readLetters (some set) rest <;> rfl
  | cons c letters ih =>
      obtain ⟨hc, hletters⟩ := List.forall_mem_cons.mp h
      rw [List.cons_append, readLetters_cons_of_mem hc, Option.any_some, bne_self_eq_false,
        if_neg Bool.false_ne_true, ih hletters]
      cases readLetters (some set) rest <;> rfl

/-- Letters of the active set are all taken. -/
theorem readLetters_of_mem (h : ∀ c ∈ letters, c ∈ set.letters) :
    readLetters (some set) letters = .ok (letters.map set.byte) := by
  have hread := readLetters_append h []
  rw [List.append_nil] at hread
  rw [hread]
  exact congrArg Except.ok (List.append_nil _)

/-- With a set active, nothing but letters of that set is read. -/
theorem mem_of_readLetters (h : readLetters (some set) letters = .ok selectors) :
    ∀ c ∈ letters, c ∈ set.letters := by
  induction letters generalizing selectors with
  | nil => exact List.forall_mem_nil _
  | cons c rest ih =>
      by_cases hc : ∃ other : LetterSet, c ∈ other.letters
      · obtain ⟨other, hother⟩ := hc
        rw [readLetters_cons_of_mem hother, Option.any_some] at h
        by_cases heq : set = other
        · subst heq
          rw [bne_self_eq_false, if_neg Bool.false_ne_true] at h
          cases hread : readLetters (some set) rest with
          | error e =>
              rw [hread] at h
              cases h
          | ok found => exact List.forall_mem_cons.mpr ⟨hother, ih hread⟩
        -- a letter of the other set is refused
        · rw [if_pos (bne_iff_ne.mpr heq)] at h
          cases h
      · rw [readLetters_cons_of_not_mem (not_exists.mp hc)] at h
        cases h

/-- The first letter makes its set active. -/
theorem readLetters_none (h : c ∈ set.letters) :
    readLetters none (c :: rest) = readLetters (some set) (c :: rest) := by
  rw [readLetters_cons_of_mem h, readLetters_cons_of_mem h, Option.any_some, bne_self_eq_false]
  rfl

/-- Letters of one set are read from the start, and nothing else is. -/
theorem readLetters_eq_ok_iff (hne : letters ≠ []) :
    readLetters none letters = .ok selectors ↔
      ∃ set : LetterSet, (∀ c ∈ letters, c ∈ set.letters) ∧ selectors = letters.map set.byte := by
  obtain ⟨c, rest, rfl⟩ := List.exists_cons_of_ne_nil hne
  constructor
  · intro h
    by_cases hc : ∃ set : LetterSet, c ∈ set.letters
    · obtain ⟨set, hset⟩ := hc
      rw [readLetters_none hset] at h
      have hmem := mem_of_readLetters h
      rw [readLetters_of_mem hmem] at h
      exact ⟨set, hmem, (Except.ok.inj h).symm⟩
    · rw [readLetters_cons_of_not_mem (not_exists.mp hc)] at h
      cases h
  · rintro ⟨set, hmem, rfl⟩
    rw [readLetters_none (List.forall_mem_cons.mp hmem).1, readLetters_of_mem hmem]

/-! ## Texts -/

/-- A text is one to four letters of a set. -/
structure LetterSet.Spells (set : LetterSet) (text : String) : Prop where
  ne_nil : text.toList ≠ []
  le : text.toList.length ≤ maxSlots
  mem : ∀ c ∈ text.toList, c ∈ set.letters

variable {text : String} {s : Swizzle}

/-- A text that spells has no more letters than a swizzle has slots. -/
theorem LetterSet.Spells.length_le (h : set.Spells text) :
    (text.toList.map set.byte).length ≤ maxSlots := by
  rw [List.length_map]
  exact h.le

/-- The selectors of the letters that a text spells with are in range. -/
theorem LetterSet.Spells.byte_range (h : set.Spells text) :
    ∀ s ∈ text.toList.map set.byte, s.toNat < 2 ^ Kind.vector.width := by
  intro s hs
  obtain ⟨c, hc, rfl⟩ := List.mem_map.mp hs
  rw [byte_toNat (h.mem c hc)]
  exact idxOf_lt (h.mem c hc)

/-- The swizzle that the letters of a text select. -/
def LetterSet.swizzle (set : LetterSet) (text : String) : Swizzle :=
  ⟨pack .vector 0 (text.toList.map set.byte), (text.toList.map set.byte).length, .vector⟩

/-- The selectors of a text that spells are packed. -/
theorem ofSelectors_of_spells (h : set.Spells text) :
    ofSelectors .vector (text.toList.map set.byte) = .ok (set.swizzle text) :=
  ofSelectors_eq_ok (mt List.map_eq_nil_iff.mp h.ne_nil) h.length_le h.byte_range

/-- A text that spells a vector swizzle is read as that swizzle. -/
theorem ofVectorText_of_spells (h : set.Spells text) : ofVectorText text = .ok (set.swizzle text) := by
  rw [ofVectorText, ofLetters, if_neg h.ne_nil, if_neg (Nat.not_lt.mpr h.le),
    (readLetters_eq_ok_iff h.ne_nil).mpr ⟨set, h.mem, rfl⟩]
  exact ofSelectors_of_spells h

/-- Nothing but letters of one set is accepted. -/
theorem exists_set_of_ok (h : ofVectorText text = .ok s) : ∃ set : LetterSet, set.Spells text := by
  rw [ofVectorText, ofLetters] at h
  by_cases hnil : text.toList = []
  · rw [if_pos hnil] at h
    cases h
  by_cases hlength : maxSlots < text.toList.length
  · rw [if_neg hnil, if_pos hlength] at h
    cases h
  rw [if_neg hnil, if_neg hlength] at h
  cases hread : readLetters none text.toList with
  | error e =>
      rw [hread] at h
      cases h
  | ok selectors =>
      obtain ⟨set, hmem, -⟩ := (readLetters_eq_ok_iff hnil).mp hread
      exact ⟨set, hnil, Nat.not_lt.mp hlength, hmem⟩

/-- A text is accepted exactly if it is one to four letters of one set. -/
theorem ofVectorText_eq_ok_iff :
    ofVectorText text = .ok s ↔ ∃ set : LetterSet, set.Spells text ∧ s = set.swizzle text := by
  constructor
  · intro h
    obtain ⟨set, hset⟩ := exists_set_of_ok h
    rw [ofVectorText_of_spells hset] at h
    exact ⟨set, hset, (Except.ok.inj h).symm⟩
  · rintro ⟨set, hset, rfl⟩
    exact ofVectorText_of_spells hset

end ShaderDiagnostics.Swizzle
