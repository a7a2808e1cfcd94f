import Mathlib
import ShaderDiagnostics.Proofs.Swizzle.RoundTrip
/-!
# Swizzles that can be obtained

A swizzle is obtained from a text of either kind or from selectors (`Obtained`), and was packed in
each case (`obtained_iff`). Selectors of any number and value are packed exactly if there are one to
four of them and each has a component of the kind; otherwise the first thing wrong is told
(`decidesPacking_ofSelectors`). A swizzle that can be obtained keeps nothing in its mask but its
selectors, and packing these once more gives the same swizzle, so two such swizzles with the same
selectors are the same (`packs_faithfully`).
-/

namespace ShaderDiagnostics.Swizzle

variable {kind : Kind} {selectors : List UInt8} {s t : Swizzle} {e : Error}

/-! ## Selectors of a kind -/

/-- A selector has a component of a kind exactly if it fits in a slot. -/
theorem Kind.le_selectorMask_iff (kind : Kind) (b : UInt8) :
    b.toUInt32 ≤ kind.selectorMask ↔ b.toNat < 2 ^ kind.width := by
  have hpos : 0 < 2 ^ kind.width := by positivity
  rw [UInt32.le_iff_toNat_le, kind.selectorMask_toNat, UInt8.toNat_toUInt32]
  omega

/-- Selectors make no swizzle of a kind, and an error says why. -/
inductive Refused (kind : Kind) (selectors : List UInt8) : Error → Prop where
  /-- There are none. -/
  | empty (h : selectors = []) : Refused kind selectors .empty
  /-- There are more than four, whatever they are. -/
  | tooMany (h : 4 < selectors.length) :
      Refused kind selectors (.tooManyComponents selectors.length)
  /-- There are at most four, and selector number `i` is the first one without a component. -/
  | outOfRange (h : selectors.length ≤ 4) (i : ℕ) (hi : i < selectors.length)
      (hout : kind.selectorMask < selectors[i].toUInt32)
      (hbefore : ∀ j, (hj : j < i) → selectors[j].toUInt32 ≤ kind.selectorMask) :
      Refused kind selectors (.selectorOutOfRange selectors[i] kind)

/-- One to four selectors with components of the kind make the swizzle that is packed from them. -/
theorem ofSelectors_of_range (hpos : 1 ≤ selectors.length) (hle : selectors.length ≤ 4)
    (hrange : ∀ b ∈ selectors, b.toUInt32 ≤ kind.selectorMask) :
    ofSelectors kind selectors = .ok ⟨pack kind 0 selectors, selectors.length, kind⟩ := by
  apply ofSelectors_eq_ok
  · exact List.ne_nil_of_length_pos hpos
  · exact hle
  · intro b hb
    exact (kind.le_selectorMask_iff b).mp (hrange b hb)

/-- Selectors with a reason to be refused are refused for it. -/
theorem ofSelectors_of_refused (h : Refused kind selectors e) :
    ofSelectors kind selectors = .error e := by
  cases h with
  | empty h =>
      subst h
      exact ofSelectors_nil kind
  | tooMany h =>
      have hne : selectors ≠ [] := by
        rintro rfl
        exact absurd h (by decide)
      rw [ofSelectors, if_neg hne, maxSlots, if_pos h]
  | outOfRange h i hi hout hbefore =>
      have hne : selectors ≠ [] := by
        rintro rfl
        exact absurd hi (Nat.not_lt_zero i)
      -- the search passes over the selectors before number `i`
      have hfind : selectors.find? (fun b => decide (kind.selectorMask < b.toUInt32)) =
          some selectors[i] := by
        rw [List.find?_eq_some_iff_getElem]
        refine ⟨by simpa using hout, i, hi, rfl, fun j hj => ?_⟩
        simpa using hbefore j hj
      rw [ofSelectors, if_neg hne, maxSlots, if_neg (Nat.not_lt.mpr h), hfind]

/-- There is no third possibility. -/
theorem packed_or_refused (kind : Kind) (selectors : List UInt8) :
    (1 ≤ selectors.length ∧ selectors.length ≤ 4 ∧
      ∀ b ∈ selectors, b.toUInt32 ≤ kind.selectorMask) ∨ ∃ e, Refused kind selectors e := by
  by_cases hnil : selectors = []
  · exact .inr ⟨_, .empty hnil⟩
  have hpos : 1 ≤ selectors.length := List.length_pos_of_ne_nil hnil
  by_cases hlength : 4 < selectors.length
  · exact .inr ⟨_, .tooMany hlength⟩
  have hle : selectors.length ≤ 4 := by omega
  cases hfind : selectors.find? (fun b => decide (kind.selectorMask < b.toUInt32)) with
  | none =>
      left
      refine ⟨hpos, hle, fun b hb => ?_⟩
      simpa using List.find?_eq_none.mp hfind b hb
  | some b =>
      right
      obtain ⟨hout, i, hi, rfl, hbefore⟩ := List.find?_eq_some_iff_getElem.mp hfind
      refine ⟨_, .outOfRange hle i hi (by simpa using hout) fun j hj => ?_⟩
      simpa using hbefore j hj

/-! ## What packing decides -/

/-- A result is the right one for packing selectors of a kind. -/
structure DecidesPacking (kind : Kind) (selectors : List UInt8)
    (result : Except Error Swizzle) : Prop where
  /-- It is a swizzle exactly if there are one to four selectors with components of the kind. -/
  accepts : (∃ s, result = .ok s) ↔ 1 ≤ selectors.length ∧ selectors.length ≤ 4 ∧
    ∀ b ∈ selectors, b.toUInt32 ≤ kind.selectorMask
  /-- The swizzle is of the kind and gives the selectors back. -/
  keeps : ∀ s, result = .ok s →
    s.kind = kind ∧ s.length = selectors.length ∧ s.selectors = selectors.map UInt8.toUInt32
  /-- It is an error exactly for the first thing wrong. -/
  refuses : ∀ e, result = .error e ↔ Refused kind selectors e

/-- What is packed from selectors was packed from these. -/
theorem isPacked_of_ofSelectors (h : ofSelectors kind selectors = .ok s) :
    s.kind = kind ∧ IsPacked s selectors := by
  rcases packed_or_refused kind selectors with ⟨hpos, hle, hrange⟩ | ⟨e, hrefused⟩
  · rw [ofSelectors_of_range hpos hle hrange] at h
    obtain rfl := Except.ok.inj h
    refine ⟨rfl, List.ne_nil_of_length_pos hpos, hle, fun b hb => ?_, rfl⟩
    exact (kind.le_selectorMask_iff b).mp (hrange b hb)
  · rw [ofSelectors_of_refused hrefused] at h
    cases h

/-- Packing decides for any bytes, and says what is wrong. -/
theorem decidesPacking_ofSelectors (kind : Kind) (selectors : List UInt8) :
    DecidesPacking kind selectors (ofSelectors kind selectors) := by
  refine ⟨?accepts, ?keeps, ?refuses⟩
  case accepts =>
    constructor
    · rintro ⟨s, hs⟩
      obtain ⟨rfl, hpacked⟩ := isPacked_of_ofSelectors hs
      refine ⟨List.length_pos_of_ne_nil hpacked.ne_nil, hpacked.le, fun b hb => ?_⟩
      exact (s.kind.le_selectorMask_iff b).mpr (hpacked.range b hb)
    · rintro ⟨hpos, hle, hrange⟩
      exact ⟨_, ofSelectors_of_range hpos hle hrange⟩
  case keeps =>
    intro s hs
    obtain ⟨hkind, hpacked⟩ := isPacked_of_ofSelectors hs
    exact ⟨hkind, by rw [hpacked.eq], hpacked.selectors_eq⟩
  case refuses =>
    intro e
    constructor
    · intro herror
      rcases packed_or_refused kind selectors with ⟨hpos, hle, hrange⟩ | ⟨e', hrefused⟩
      · rw [ofSelectors_of_range hpos hle hrange] at herror
        cases herror
      · rw [ofSelectors_of_refused hrefused] at herror
        obtain rfl := Except.error.inj herror
        exact hrefused
    · exact ofSelectors_of_refused

/-! ## Obtained swizzles -/

/-- A swizzle is what a text is read as, or what selectors are packed to. -/
inductive Obtained (s : Swizzle) : Prop where
  | ofVectorText {text : String} (h : ofVectorText text = .ok s)
  | ofMatrixText {text : String} (h : ofMatrixText text = .ok s)
  | ofSelectors {kind : Kind} {selectors : List UInt8} (h : ofSelectors kind selectors = .ok s)

/-- A packed swizzle is what its selectors pack to. -/
theorem ofSelectors_of_isPacked (h : IsPacked s selectors) :
    Swizzle.ofSelectors s.kind selectors = .ok s := by
  rw [ofSelectors_eq_ok h.ne_nil h.le h.range]
  exact congrArg Except.ok h.eq.symm

/-- The swizzles that can be obtained are those that were packed. -/
theorem obtained_iff : Obtained s ↔ ∃ selectors, IsPacked s selectors := by
  constructor
  · intro h
    cases h with
    | @ofVectorText text h =>
        have hread : ofText .vector text = .ok s := h
        exact (exists_isPacked_of_ok hread).2
    | @ofMatrixText text h =>
        have hread : ofText .matrix text = .ok s := h
        exact (exists_isPacked_of_ok hread).2
    | ofSelectors h => exact ⟨_, (isPacked_of_ofSelectors h).2⟩
  · rintro ⟨selectors, h⟩
    exact .ofSelectors (ofSelectors_of_isPacked h)

/-- The selectors of a packed swizzle are known from what it gives back. -/
theorem IsPacked.unique {selectors' : List UInt8} (h : IsPacked s selectors)
    (h' : IsPacked t selectors') (heq : s.selectors = t.selectors) : selectors = selectors' := by
  have hword : Function.Injective UInt8.toUInt32 := fun _ _ => UInt8.toUInt32_inj.mp
  rw [h.selectors_eq, h'.selectors_eq] at heq
  exact List.map_injective_iff.mpr hword heq

/-- A swizzle holds one to four selectors and nothing else. -/
structure WellPacked (s : Swizzle) : Prop where
  one_le : 1 ≤ s.length
  le : s.length ≤ 4
  isEmpty : s.isEmpty = false
  /-- No bit of the mask lies at or beyond the end of the slots. -/
  testBit : ∀ i, s.length * s.kind.bitsPerSlot.toNat ≤ i → s.mask.toNat.testBit i = false
  /-- The selectors are bytes, which make the swizzle again. -/
  repacks : ∃ selectors : List UInt8, selectors.map UInt8.toUInt32 = s.selectors ∧
    Swizzle.ofSelectors s.kind selectors = .ok s

/-- A packed swizzle has one to four slots and no bits beyond them, and packs again. -/
theorem IsPacked.wellPacked (h : IsPacked s selectors) : WellPacked s := by
  have hlength : s.length = selectors.length := by rw [h.eq]
  have hpos : 1 ≤ s.length := hlength ▸ List.length_pos_of_ne_nil h.ne_nil
  refine ⟨hpos, hlength ▸ h.le, ?_, fun i hi => ?_, selectors, h.selectors_eq.symm,
    ofSelectors_of_isPacked h⟩
  · rw [Swizzle.isEmpty, beq_eq_false_iff_ne]
    omega
  · apply Nat.testBit_lt_two_pow
    have hmask : s.mask = pack s.kind 0 selectors := congrArg Swizzle.mask h.eq
    rw [hlength, mul_comm, ← Kind.width] at hi
    calc s.mask.toNat
      _ < 2 ^ (s.kind.width * selectors.length) := hmask ▸ pack_lt h.le h.range
      _ ≤ 2 ^ i := Nat.pow_le_pow_right (by norm_num) hi

/-- Packing loses nothing and adds nothing: it decides which selectors make a swizzle, and a swizzle
that can be obtained, in whatever way, is known from its kind and its selectors. -/
theorem packs_faithfully (kind : Kind) (selectors : List UInt8) (s t : Swizzle) :
    DecidesPacking kind selectors (ofSelectors kind selectors) ∧
      (Obtained s → WellPacked s) ∧
        (Obtained s → Obtained t → (s = t ↔ s.kind = t.kind ∧ s.selectors = t.selectors)) := by
  refine ⟨decidesPacking_ofSelectors kind selectors, fun hs => ?_, fun hs ht => ?_⟩
  · obtain ⟨packed, hpacked⟩ := obtained_iff.mp hs
    exact hpacked.wellPacked
  · constructor
    · rintro rfl
      exact ⟨rfl, rfl⟩
    · rintro ⟨hkind, hselectors⟩
      obtain ⟨packed, hpacked⟩ := obtained_iff.mp hs
      obtain ⟨packed', hpacked'⟩ := obtained_iff.mp ht
      obtain rfl := hpacked.unique hpacked' hselectors
      rw [hpacked.eq, hpacked'.eq, hkind]

/-- `bgr` and the selectors 2, 1 and 0 are the same swizzle; 4 is the first selector of `[3, 4, 9]`
that no component of a vector has. -/
theorem packs_faithfully_bgr :
    ∃ s t, ofVectorText "bgr" = .ok s ∧ ofSelectors .vector [2, 1, 0] = .ok t ∧
      WellPacked s ∧ s = t ∧
        ofSelectors .vector [3, 4, 9] = .error (.selectorOutOfRange 4 .vector) := by
  have htext : ofVectorText "bgr" = .ok ⟨6, 3, .vector⟩ := by decide
  have hpacked : ofSelectors .vector [2, 1, 0] = .ok ⟨6, 3, .vector⟩ := by decide
  obtain ⟨hdecides, hsound, heq⟩ :=
    packs_faithfully .vector [3, 4, 9] ⟨6, 3, .vector⟩ ⟨6, 3, .vector⟩
  have hout : Refused .vector [3, 4, 9] (.selectorOutOfRange 4 .vector) :=
    .outOfRange (by decide) 1 (by decide) (by decide) (by decide)
  refine ⟨_, _, htext, hpacked, hsound (.ofVectorText htext), ?_, (hdecides.refuses _).mpr hout⟩
  exact (heq (.ofVectorText htext) (.ofSelectors hpacked)).mpr ⟨rfl, rfl⟩

end ShaderDiagnostics.Swizzle
