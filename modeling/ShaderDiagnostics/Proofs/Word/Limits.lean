import Mathlib
import ShaderDiagnostics.Word
/-!
# Words as numbers

What arithmetic that stops at its limit comes to in numbers. A product is cut off at the largest word
(`mulSaturating_toNat`). A shift to the right divides by a power of two, however far it goes, if no
result counts as 0 (`getD_shiftRight?_toNat`): nothing is left of a word behind its last bit.
-/

namespace ShaderDiagnostics.Word

theorem toNat_injective : Function.Injective UInt32.toNat :=
  fun _ _ => UInt32.toNat_inj.mp

/-! ## Narrowing -/

/-- A number is narrowed to the word that has it. -/
theorem ofNat?_eq_some_iff {n : ℕ} {w : UInt32} : ofNat? n = some w ↔ w.toNat = n := by
  constructor
  · intro h
    unfold ofNat? at h
    split_ifs at h with hlt
    obtain rfl := Option.some.inj h
    exact UInt32.toNat_ofNat_of_lt' hlt
  · rintro rfl
    rw [ofNat?_of_lt w.toNat_lt, UInt32.ofNat_toNat]

/-- Exactly the numbers from 2 ^ 32 on are refused. -/
theorem ofNat?_eq_none_iff {n : ℕ} : ofNat? n = none ↔ 2 ^ 32 ≤ n := by
  unfold ofNat?
  split_ifs with h
  · simpa using h
  · simpa using h

theorem clamp_toNat {n : ℕ} (h : n < UInt32.size) : (clamp n).toNat = n := by
  rw [clamp_of_lt h, UInt32.toNat_ofNat_of_lt' h]

/-! ## Products -/

/-- A product is exact if it is a word, and the largest word otherwise. -/
theorem mulSaturating_toNat (a b : UInt32) :
    (mulSaturating a b).toNat = min (a.toNat * b.toNat) top.toNat := by
  have htop : top.toNat = UInt32.size - 1 := rfl
  unfold mulSaturating
  split_ifs with h
  · rw [UInt32.toNat_mul, Nat.mod_eq_of_lt h]
    omega
  · omega

/-! ## Shifts -/

/-- The bits of a word end before the bit 32. -/
theorem toNat_div_two_pow (w : UInt32) {n : ℕ} (h : 32 ≤ n) : w.toNat / 2 ^ n = 0 :=
  Nat.div_eq_of_lt (w.toNat_lt.trans_le (Nat.pow_le_pow_right (by norm_num) h))

/-- Exactly the shifts by the width of the word or more are refused. -/
theorem shiftRight?_eq_none_iff {w n : UInt32} : shiftRight? w n = none ↔ 32 ≤ n.toNat := by
  unfold shiftRight?
  split_ifs with h
  · simpa [UInt32.lt_iff_toNat_lt] using h
  · simpa [UInt32.lt_iff_toNat_lt] using h

/-- A shift that is made divides by a power of two. -/
theorem shiftRight?_toNat {w n shifted : UInt32} (h : shiftRight? w n = some shifted) :
    shifted.toNat = w.toNat / 2 ^ n.toNat := by
  unfold shiftRight? at h
  split_ifs at h with hlt
  obtain rfl := Option.some.inj h
  have hbits : n.toNat < 32 := UInt32.lt_iff_toNat_lt.mp hlt
  rw [UInt32.toNat_shiftRight, Nat.mod_eq_of_lt hbits, Nat.shiftRight_eq_div_pow]

/-- A shift divides by a power of two, also where it goes beyond the word. -/
theorem getD_shiftRight?_toNat (w n : UInt32) :
    ((shiftRight? w n).getD 0).toNat = w.toNat / 2 ^ n.toNat := by
  cases h : shiftRight? w n with
  | none => exact (toNat_div_two_pow w (shiftRight?_eq_none_iff.mp h)).symm
  | some shifted => exact shiftRight?_toNat h

end ShaderDiagnostics.Word
