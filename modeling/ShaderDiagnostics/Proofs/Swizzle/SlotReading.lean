import Mathlib
import ShaderDiagnostics.Proofs.Swizzle.Packing
/-!
# Reading any slot of a mask

A slot index may be any number. Three guards keep the reading of a slot from wrapping around: its
index may be no word, the bit at which it starts may be no word, and that bit may lie beyond the mask.
None of them steps in too early or too late. The start is exact as long as the mask reaches it, and a
slot that starts further out has the selector 0, as a number has nothing but zeros in front of its
digits (`readsDigit_selectorAt`).
-/

namespace ShaderDiagnostics.Swizzle.Kind

variable {kind : Kind} {mask : UInt32} {slot : ℕ}

/-! ## The shift to a slot -/

/-- The mask is shifted exactly if it reaches the start of the slot. -/
theorem shiftRight?_slotShift_eq_none_iff :
    Word.shiftRight? mask (kind.slotShift slot) = none ↔ 32 ≤ kind.width * slot := by
  have htop : 32 ≤ Word.top.toNat := by decide
  rw [Word.shiftRight?_eq_none_iff, slotShift_toNat_eq_min, le_min_iff]
  exact and_iff_left htop

/-- What is left of the mask from the start of the slot on. -/
theorem shiftRight?_slotShift_toNat {shifted : UInt32}
    (h : Word.shiftRight? mask (kind.slotShift slot) = some shifted) :
    shifted.toNat = mask.toNat / 2 ^ (kind.width * slot) := by
  have hreached : kind.width * slot < 32 := by
    by_contra hbeyond
    rw [shiftRight?_slotShift_eq_none_iff.mpr (Nat.not_lt.mp hbeyond)] at h
    cases h
  rw [Word.shiftRight?_toNat h, kind.slotShift_toNat_of_lt hreached]

/-! ## The reading of a slot -/

/-- The selector in a slot of a mask is read as a digit of the mask, past three guards. -/
structure ReadsDigit (kind : Kind) (mask : UInt32) (slot : ℕ) : Prop where
  /-- An index is refused only for a slot beyond the mask. -/
  index : Word.ofNat? slot = none → 32 ≤ kind.bitsPerSlot.toNat * slot
  /-- A product with an index that is not refused is exact up to the largest word. -/
  product : ∀ s, Word.ofNat? slot = some s →
    (Word.mulSaturating s kind.bitsPerSlot).toNat =
      min (kind.bitsPerSlot.toNat * slot) (2 ^ 32 - 1)
  /-- So the start of the slot does not wrap around. -/
  start : (kind.slotShift slot).toNat = min (kind.bitsPerSlot.toNat * slot) (2 ^ 32 - 1)
  /-- A shift is refused exactly for a slot beyond the mask. -/
  beyond : Word.shiftRight? mask (kind.slotShift slot) = none ↔
    32 ≤ kind.bitsPerSlot.toNat * slot
  /-- A shift that is made divides by the weight of the digit. -/
  shifted : ∀ w, Word.shiftRight? mask (kind.slotShift slot) = some w →
    w.toNat = mask.toNat / 2 ^ (kind.bitsPerSlot.toNat * slot)
  digit : (kind.selectorAt mask slot).toNat =
    mask.toNat / 2 ^ (kind.bitsPerSlot.toNat * slot) % 2 ^ kind.bitsPerSlot.toNat

/-- **A selector is a digit of the mask**, whatever the slot. -/
theorem readsDigit_selectorAt (kind : Kind) (mask : UInt32) (slot : ℕ) :
    ReadsDigit kind mask slot where
  index := by
    intro h
    have hslot : 2 ^ 32 ≤ slot := Word.ofNat?_eq_none_iff.mp h
    have hle : slot ≤ kind.width * slot := Nat.le_mul_of_pos_left slot kind.width_pos
    show 32 ≤ kind.width * slot
    omega
  product := by
    intro s h
    rw [Word.mulSaturating_toNat, Word.ofNat?_eq_some_iff.mp h, mul_comm]
    rfl
  start := kind.slotShift_toNat_eq_min slot
  beyond := shiftRight?_slotShift_eq_none_iff
  shifted := by
    intro w h
    exact shiftRight?_slotShift_toNat h
  digit := by
    rw [selectorAt_toNat, ← pow_mul]
    rfl

/-- This slot starts at the bit `2 ^ 32`; a product that wrapped around would lead to slot 0. -/
example : matrix.selectorAt 0xFFFFFFFF 0x40000000 = 0 := by
  decide

end ShaderDiagnostics.Swizzle.Kind
