import Mathlib
import ShaderDiagnostics.Proofs.Word.Limits
import ShaderDiagnostics.Swizzle.Basic
/-!
# Packing and unpacking selectors

A mask that is packed from at most four selectors is the number whose digits they are, slot 0 first
(`pack_toNat`), and a slot of a mask is one digit of it (`Kind.selectorAt_toNat`). So a swizzle gives
back the selectors that it was built from (`selectors_pack`).
-/

namespace ShaderDiagnostics.Swizzle

/-! ## Slots as digits -/

namespace Kind

/-- The bits of one slot, as a number. -/
def width (kind : Kind) : ℕ :=
  kind.bitsPerSlot.toNat

theorem width_le (kind : Kind) : kind.width ≤ 4 := by
  cases kind <;> decide

/-- A word has room for the four slots of a swizzle. -/
theorem width_mul_lt (kind : Kind) {slot : ℕ} (h : slot ≤ maxSlots) :
    kind.width * slot < 32 := by
  calc kind.width * slot ≤ 4 * 4 := Nat.mul_le_mul kind.width_le h
    _ < 32 := by decide

/-- The mask of a selector has all bits of a slot. -/
theorem selectorMask_toNat (kind : Kind) : kind.selectorMask.toNat = 2 ^ kind.width - 1 := by
  cases kind <;> rfl

theorem width_pos (kind : Kind) : 0 < kind.width := by
  cases kind <;> decide

/-- A slot starts after the slots before it, or at the largest word if that is no word. -/
theorem slotShift_toNat_eq_min (kind : Kind) (slot : ℕ) :
    (kind.slotShift slot).toNat = min (kind.width * slot) Word.top.toNat := by
  unfold slotShift
  cases h : Word.ofNat? slot with
  | some s =>
      show (Word.mulSaturating s kind.bitsPerSlot).toNat = _
      rw [Word.mulSaturating_toNat, Word.ofNat?_eq_some_iff.mp h, mul_comm, ← width]
  | none =>
      have hslot : 2 ^ 32 ≤ slot := Word.ofNat?_eq_none_iff.mp h
      have hle : slot ≤ kind.width * slot := Nat.le_mul_of_pos_left slot kind.width_pos
      exact (Nat.min_eq_right (by simp [Word.top]; omega)).symm

/-- The start of a slot is exact as long as it lies in a mask. -/
theorem slotShift_toNat_of_lt (kind : Kind) {slot : ℕ} (h : kind.width * slot < 32) :
    (kind.slotShift slot).toNat = kind.width * slot := by
  have hfits : kind.width * slot ≤ Word.top.toNat := h.le.trans (by decide)
  rw [slotShift_toNat_eq_min, Nat.min_eq_left hfits]

/-- A slot of a swizzle starts after the slots before it. -/
theorem slotShift_toNat (kind : Kind) {slot : ℕ} (h : slot < maxSlots) :
    (kind.slotShift slot).toNat = kind.width * slot :=
  kind.slotShift_toNat_of_lt (kind.width_mul_lt h.le)

/-- The selector in a slot of a mask is a digit of the mask, however far out the slot is. -/
theorem selectorAt_toNat (kind : Kind) (mask : UInt32) (slot : ℕ) :
    (kind.selectorAt mask slot).toNat =
      mask.toNat / (2 ^ kind.width) ^ slot % 2 ^ kind.width := by
  rw [selectorAt, UInt32.toNat_and, selectorMask_toNat, Nat.and_two_pow_sub_one_eq_mod,
    Word.getD_shiftRight?_toNat, ← pow_mul]
  rcases Nat.lt_or_ge (kind.width * slot) 32 with h | h
  · rw [kind.slotShift_toNat_of_lt h]
  -- the slot starts beyond the word, where every digit is 0
  · have hstart : 32 ≤ (kind.slotShift slot).toNat := by
      rw [slotShift_toNat_eq_min]
      exact le_min h (by decide)
    rw [Word.toNat_div_two_pow mask h, Word.toNat_div_two_pow mask hstart]

end Kind

/-! ## Masks as numbers -/

variable {kind : Kind}

/-- The selectors of a kind, as numbers, are the digits of a packed mask. -/
theorem pack_toNat {selectors : List UInt8} {slot : ℕ} (hslot : slot + selectors.length ≤ maxSlots)
    (hrange : ∀ s ∈ selectors, s.toNat < 2 ^ kind.width) :
    (pack kind slot selectors).toNat =
      2 ^ (kind.width * slot) * Nat.ofDigits (2 ^ kind.width) (selectors.map UInt8.toNat) := by
  induction selectors generalizing slot with
  | nil => simp [pack]
  | cons s rest ih =>
      obtain ⟨hs, hrest⟩ := List.forall_mem_cons.mp hrange
      rw [List.length_cons] at hslot
      have hlt : slot < maxSlots := by omega
      have hpow : 2 ^ (kind.width * (slot + 1)) = 2 ^ (kind.width * slot) * 2 ^ kind.width := by
        rw [Nat.mul_succ, pow_add]
      -- the selector stays below the slots after it
      have hbelow : s.toNat * 2 ^ (kind.width * slot) < 2 ^ (kind.width * (slot + 1)) := by
        rw [hpow, mul_comm]
        exact Nat.mul_lt_mul_of_pos_left hs (by positivity)
      have hword : 2 ^ (kind.width * (slot + 1)) ≤ 2 ^ 32 :=
        Nat.pow_le_pow_right (by norm_num) (kind.width_mul_lt hlt).le
      rw [pack, UInt32.toNat_or, UInt32.toNat_shiftLeft, kind.slotShift_toNat hlt,
        Nat.mod_eq_of_lt (kind.width_mul_lt hlt.le), Nat.shiftLeft_eq, UInt8.toNat_toUInt32,
        Nat.mod_eq_of_lt (hbelow.trans_le hword), ih (by omega) hrest, Nat.or_comm,
        ← Nat.two_pow_add_eq_or_of_lt hbelow, List.map_cons, Nat.ofDigits_cons, hpow]
      ring

/-- A packed mask has no bit beyond the slots of its selectors. -/
theorem pack_lt {selectors : List UInt8} (hlength : selectors.length ≤ maxSlots)
    (hrange : ∀ s ∈ selectors, s.toNat < 2 ^ kind.width) :
    (pack kind 0 selectors).toNat < 2 ^ (kind.width * selectors.length) := by
  have hdigits : ∀ d ∈ selectors.map UInt8.toNat, d < 2 ^ kind.width :=
    List.forall_mem_map.mpr hrange
  have hone : 1 < 2 ^ kind.width := Nat.one_lt_two_pow kind.width_pos.ne'
  rw [pack_toNat (by omega) hrange, mul_zero, pow_zero, one_mul, pow_mul,
    ← List.length_map UInt8.toNat]
  exact Nat.ofDigits_lt_base_pow_length hone hdigits

/-- The selectors of a swizzle are read slot by slot. -/
theorem getElem_selectors (s : Swizzle) {i : ℕ} (h : i < s.selectors.length) :
    s.selectors[i] = s.kind.selectorAt s.mask i := by
  simp [Swizzle.selectors]

/-- Unpacking gives back what was packed. -/
theorem selectors_pack {selectors : List UInt8} (hlength : selectors.length ≤ maxSlots)
    (hrange : ∀ s ∈ selectors, s.toNat < 2 ^ kind.width) :
    (Swizzle.selectors ⟨pack kind 0 selectors, selectors.length, kind⟩).map UInt32.toNat =
      selectors.map UInt8.toNat := by
  have hdigits : ∀ d ∈ selectors.map UInt8.toNat, d < 2 ^ kind.width := by
    intro d hd
    obtain ⟨s, hs, rfl⟩ := List.mem_map.mp hd
    exact hrange s hs
  refine List.ext_getElem (by simp [length_selectors]) fun i h₁ h₂ => ?_
  rw [List.getElem_map, getElem_selectors,
    kind.selectorAt_toNat, pack_toNat (by omega) hrange, mul_zero, pow_zero,
    one_mul, Nat.ofDigits_div_pow_eq_ofDigits_drop i (by positivity) _ hdigits,
    List.drop_eq_getElem_cons h₂, Nat.ofDigits_cons, Nat.add_mul_mod_self_left,
    Nat.mod_eq_of_lt (hdigits _ (List.getElem_mem h₂))]

/-- One to four selectors of a kind make a swizzle. -/
theorem ofSelectors_eq_ok {selectors : List UInt8} (hne : selectors ≠ [])
    (hlength : selectors.length ≤ maxSlots) (hrange : ∀ s ∈ selectors, s.toNat < 2 ^ kind.width) :
    ofSelectors kind selectors = .ok ⟨pack kind 0 selectors, selectors.length, kind⟩ := by
  have hfind : selectors.find? (fun s => decide (kind.selectorMask < s.toUInt32)) = none := by
    refine List.find?_eq_none.mpr fun s hs => ?_
    have := hrange s hs
    rw [decide_eq_true_eq, UInt32.lt_iff_toNat_lt, kind.selectorMask_toNat, UInt8.toNat_toUInt32]
    omega
  rw [ofSelectors, if_neg hne, if_neg (Nat.not_lt.mpr hlength), hfind]

end ShaderDiagnostics.Swizzle
