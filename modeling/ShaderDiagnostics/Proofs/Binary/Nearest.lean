import Mathlib
import ShaderDiagnostics.Proofs.Binary.Canonical
import ShaderDiagnostics.Proofs.Decimal.Rounding
/-!
# Numbers of a format near a given one

Every canonical pair up to the highest exponent has a word of each sign (`Format.exists_decode_eq`).
Between the smallest number with the implicit leading bit and the largest finite number, every
rational has therefore a number of the format within half a unit of its last bit, which is at most
the rational divided by `2 ^ (fractionBits + 1)` (`Format.exists_near`). A number to which no other
lies closer is at least as near.
-/

namespace ShaderDiagnostics.Binary.Format

open Number Decimal

variable {f : Format}

/-! ## Words from fields -/

/-- The word with the given fields. -/
def pack (f : Format) (negative : Bool) (field fraction : ℕ) : ℕ :=
  negative.toNat * 2 ^ (f.fractionBits + f.exponentBits) + field * 2 ^ f.fractionBits + fraction

section

variable {field fraction : ℕ} (negative : Bool)

/-- A packed word holds sign, exponent field and fraction, one above the other. -/
theorem pack_eq (f : Format) (field fraction : ℕ) :
    f.pack negative field fraction =
      2 ^ f.fractionBits * (2 ^ f.exponentBits * negative.toNat + field) + fraction := by
  rw [pack, pow_add]
  ring

theorem fraction_pack (hfraction : fraction < 2 ^ f.fractionBits) :
    f.fraction (f.pack negative field fraction) = fraction := by
  rw [fraction_eq, pack_eq, Nat.mul_add_mod, Nat.mod_eq_of_lt hfraction]

/-- Above the fraction of a packed word stand the sign and the exponent field. -/
theorem pack_div (hfraction : fraction < 2 ^ f.fractionBits) :
    f.pack negative field fraction / 2 ^ f.fractionBits =
      2 ^ f.exponentBits * negative.toNat + field := by
  rw [pack_eq, Nat.mul_add_div (by positivity), Nat.div_eq_of_lt hfraction, add_zero]

theorem exponentField_pack (hfield : field < 2 ^ f.exponentBits)
    (hfraction : fraction < 2 ^ f.fractionBits) :
    f.exponentField (f.pack negative field fraction) = field := by
  rw [exponentField_eq, pack_div negative hfraction, Nat.mul_add_mod, Nat.mod_eq_of_lt hfield]

theorem signBit_pack (hfield : field < 2 ^ f.exponentBits)
    (hfraction : fraction < 2 ^ f.fractionBits) :
    f.signBit (f.pack negative field fraction) = negative := by
  have hsign : f.pack negative field fraction / 2 ^ (f.fractionBits + f.exponentBits) =
      negative.toNat := by
    rw [pow_add, ← Nat.div_div_eq_div_mul, pack_div negative hfraction,
      Nat.mul_add_div (by positivity), Nat.div_eq_of_lt hfield, add_zero]
  rw [signBit, Nat.testBit_eq_decide_div_mod_eq, hsign]
  cases negative <;> rfl

/-- A packed word has no bits above the sign. -/
theorem pack_lt (hfield : field < 2 ^ f.exponentBits) (hfraction : fraction < 2 ^ f.fractionBits) :
    f.pack negative field fraction < 2 ^ (f.fractionBits + f.exponentBits + 1) := by
  have hsign : negative.toNat < 2 := Bool.toNat_lt negative
  have hupper : 2 ^ f.exponentBits * negative.toNat + field < 2 ^ (f.exponentBits + 1) := by
    rw [pow_succ]
    nlinarith
  rw [pack_eq, add_assoc, pow_add]
  nlinarith

/-- The field that is kept for infinities fits in its bits. -/
theorem topField_lt (f : Format) : f.topField < 2 ^ f.exponentBits := by
  rw [topField, Nat.one_shiftLeft]
  exact Nat.sub_one_lt (by positivity)

/-- The number of a word from fields. The exponent field counts from 1 at the lowest exponent. -/
theorem decode_pack (hfield : field < f.topField) (hfraction : fraction < 2 ^ f.fractionBits) :
    f.decode (f.pack negative field fraction) =
      if field = 0 then .finite negative fraction f.lowestExponent
      else .finite negative (2 ^ f.fractionBits + fraction) (f.lowestExponent + (field - 1)) := by
  have hlt : field < 2 ^ f.exponentBits := hfield.trans f.topField_lt
  unfold decode
  dsimp only
  rw [fraction_pack negative hfraction, exponentField_pack negative hlt hfraction,
    signBit_pack negative hlt hfraction, if_neg hfield.ne]
  split_ifs with hzero
  · rfl
  · rw [Nat.one_shiftLeft, lowestExponent]
    congr 1
    ring

end

/-! ## Words from numbers -/

/-- The exponent of the largest finite numbers. -/
def highestExponent (f : Format) : ℤ :=
  f.lowestExponent + (f.topField - 2)

/-- Every canonical pair up to the highest exponent has a word of each sign. -/
theorem exists_decode_eq {m : ℕ} {q : ℤ} (h : f.IsCanonical m q) (hq : q ≤ f.highestExponent)
    (negative : Bool) :
    ∃ word < 2 ^ (f.fractionBits + f.exponentBits + 1),
      f.decode word = .finite negative m q := by
  have hlowest := h.lowest_le
  have htop := f.topField_lt
  rw [highestExponent] at hq
  rcases lt_or_ge m (2 ^ f.fractionBits) with hm | hm
  · have hlow : q = f.lowestExponent := by
      by_contra hne
      have hbit := h.normal (lt_of_le_of_ne hlowest (Ne.symm hne))
      omega
    refine ⟨f.pack negative 0 m, pack_lt negative (by positivity) hm, ?_⟩
    rw [decode_pack negative (by omega) hm, if_pos rfl, hlow]
  · obtain ⟨field, hfield⟩ : ∃ field : ℕ, (field : ℤ) = q - f.lowestExponent + 1 :=
      ⟨(q - f.lowestExponent + 1).toNat, Int.toNat_of_nonneg (by omega)⟩
    have hfraction : m - 2 ^ f.fractionBits < 2 ^ f.fractionBits := by
      have hfits := h.fits
      rw [pow_succ] at hfits
      omega
    refine ⟨f.pack negative field (m - 2 ^ f.fractionBits),
      pack_lt negative (by omega) hfraction, ?_⟩
    rw [decode_pack negative (by omega) hfraction, if_neg (by omega), Nat.add_sub_cancel' hm,
      hfield, add_sub_cancel_right, add_sub_cancel]

/-! ## A number near a rational -/

/-- The smallest positive number with the implicit leading bit. -/
def smallestNormal (f : Format) : ℚ :=
  magnitude (2 ^ f.fractionBits) f.lowestExponent

/-- The largest finite number. -/
def largest (f : Format) : ℚ :=
  magnitude (2 ^ (f.fractionBits + 1) - 1) f.highestExponent

/-- A positive rational, from the smallest number with the leading bit on, is a number of units of a
power of two that needs the leading bit and no higher one. -/
theorem exists_unit {x : ℚ} (hx : f.smallestNormal ≤ x) :
    ∃ q, f.lowestExponent ≤ q ∧ 2 ^ f.fractionBits ≤ x / 2 ^ q ∧
      x / 2 ^ q < 2 ^ (f.fractionBits + 1) := by
  have hnormal : (2 : ℚ) ^ (f.fractionBits + f.lowestExponent) ≤ x := by
    rw [zpow_add₀ (by norm_num), zpow_natCast]
    rw [smallestNormal, magnitude] at hx
    exact_mod_cast hx
  obtain ⟨n, hlow, hhigh⟩ :=
    exists_mem_Ico_zpow (lt_of_lt_of_le (by positivity) hnormal) (by norm_num : (1 : ℚ) < 2)
  have hn := lt_of_le_of_lt hnormal hhigh
  rw [zpow_lt_zpow_iff_right₀ (by norm_num)] at hn
  refine ⟨n - f.fractionBits, by omega, ?_, ?_⟩
  · rw [le_div_iff₀ (by positivity), ← zpow_natCast, ← zpow_add₀ (by norm_num)]
    rwa [add_sub_cancel]
  · rw [div_lt_iff₀ (by positivity), ← zpow_natCast, ← zpow_add₀ (by norm_num)]
    rwa [show ((f.fractionBits + 1 : ℕ) : ℤ) + (n - f.fractionBits) = n + 1 by push_cast; ring]

/-- A carry out of the significand starts the next exponent. -/
theorem magnitude_carry (f : Format) (q : ℤ) :
    magnitude (2 ^ f.fractionBits) (q + 1) = magnitude (2 ^ (f.fractionBits + 1)) q := by
  rw [magnitude, magnitude, zpow_add_one₀ (by norm_num)]
  push_cast
  ring

/-- The largest finite magnitude has all bits of its significand set. -/
theorem largest_eq (f : Format) :
    f.largest = (2 ^ (f.fractionBits + 1) - 1) * 2 ^ f.highestExponent := by
  rw [largest, magnitude]
  push_cast [Nat.one_le_two_pow]
  rfl

/-- Numbers up to the largest finite one do not need a higher exponent. -/
theorem le_highestExponent {x : ℚ} {q : ℤ} (hx : x ≤ f.largest)
    (hbit : 2 ^ f.fractionBits * 2 ^ q ≤ x) : q ≤ f.highestExponent := by
  have hlt : (2 : ℚ) ^ (f.fractionBits + q) < 2 ^ (f.fractionBits + 1 + f.highestExponent) := by
    calc (2 : ℚ) ^ (f.fractionBits + q) = 2 ^ f.fractionBits * 2 ^ q := by
          rw [zpow_add₀ (by norm_num), zpow_natCast]
      _ ≤ (2 ^ (f.fractionBits + 1) - 1) * 2 ^ f.highestExponent := by
          rw [← largest_eq]
          exact hbit.trans hx
      _ < 2 ^ (f.fractionBits + 1) * 2 ^ f.highestExponent :=
          mul_lt_mul_of_pos_right (sub_one_lt _) (by positivity)
      _ = 2 ^ (f.fractionBits + 1 + f.highestExponent) := by
          rw [zpow_add₀ (by norm_num)]
          norm_cast
  rw [zpow_lt_zpow_iff_right₀ (by norm_num)] at hlt
  omega

/-- A finite number near a positive one: within half a unit of the last bit. Rounding up past the
significand carries into the exponent; below the largest number it never does so at the top. -/
theorem exists_isCanonical_near {x : ℚ} (hlow : f.smallestNormal ≤ x) (hhigh : x ≤ f.largest) :
    ∃ m q, f.IsCanonical m q ∧ q ≤ f.highestExponent ∧
      2 ^ (f.fractionBits + 1) * |x - magnitude m q| ≤ x := by
  obtain ⟨q, hq, hbit, hfits⟩ := exists_unit hlow
  have hunit : (0 : ℚ) < 2 ^ q := by positivity
  have ht : 0 ≤ x / 2 ^ q := le_trans (by positivity) hbit
  have hn := isNearestEven_roundHalfEven ht
  set n := roundHalfEven (x / 2 ^ q)
  have hhalf := hn.half ht
  have hnlow : 2 ^ f.fractionBits ≤ n := hn.le_of_le (by exact_mod_cast hbit)
  have hnhigh : n ≤ 2 ^ (f.fractionBits + 1) := hn.le_of_lt ht (by exact_mod_cast hfits)
  rw [le_div_iff₀ hunit] at hbit
  have htop := le_highestExponent hhigh hbit
  have herror : 2 ^ (f.fractionBits + 1) * |x - magnitude n q| ≤ x := by
    calc 2 ^ (f.fractionBits + 1) * |x - magnitude n q|
        = 2 * |x / 2 ^ q - n| * (2 ^ f.fractionBits * 2 ^ q) := by
          rw [magnitude, abs_sub_mul_unit hunit]
          ring
      _ ≤ 1 * (2 ^ f.fractionBits * 2 ^ q) :=
          mul_le_mul_of_nonneg_right (by linarith) (by positivity)
      _ ≤ x := by rw [one_mul]; exact hbit
  rcases hnhigh.lt_or_eq with hlt | hcarry
  · exact ⟨n, q, ⟨hlt, hq, fun _ => hnlow⟩, htop, herror⟩
  · refine ⟨2 ^ f.fractionBits, q + 1, ⟨?_, by omega, fun _ => le_rfl⟩, ?_, ?_⟩
    · exact Nat.pow_lt_pow_right (by norm_num) (Nat.lt_succ_self _)
    · have hne : q ≠ f.highestExponent := by
        rintro rfl
        rw [largest_eq, ← div_le_iff₀ hunit] at hhigh
        rw [hcarry] at hhalf
        push_cast at hhalf
        linarith [(abs_le.mp hhalf).1]
      omega
    · rw [magnitude_carry, ← hcarry]
      exact herror

/-- A word whose number is near a rational of either sign. -/
theorem exists_near {x : ℚ} (hlow : f.smallestNormal ≤ |x|) (hhigh : |x| ≤ f.largest) :
    ∃ word < 2 ^ (f.fractionBits + f.exponentBits + 1), ∃ y, (f.decode word).value? = some y ∧
      2 ^ (f.fractionBits + 1) * |x - y| ≤ |x| := by
  obtain ⟨m, q, hcanonical, hq, herror⟩ := exists_isCanonical_near hlow hhigh
  obtain ⟨word, hword, hdecode⟩ := exists_decode_eq hcanonical hq (decide (x < 0))
  refine ⟨word, hword, _, congrArg value? hdecode, ?_⟩
  by_cases hneg : x < 0
  · rw [abs_of_neg hneg] at herror ⊢
    rw [if_pos (decide_eq_true hneg), ← abs_neg, neg_sub', neg_neg]
    exact herror
  · rw [abs_of_nonneg (not_lt.mp hneg)] at herror ⊢
    rw [if_neg (by simpa using hneg)]
    exact herror

end ShaderDiagnostics.Binary.Format
