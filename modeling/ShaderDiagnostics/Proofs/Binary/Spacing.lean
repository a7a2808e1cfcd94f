import Mathlib
import ShaderDiagnostics.Proofs.Binary.Canonical
/-!
# The spacing of binary floating-point numbers

Two different numbers of a format are far apart, in proportion to their size. The main statement is
`Format.abs_le_mul_dist`: the gap around a number, on either side, is at least the number divided by
`2 ^ (fractionBits + 1)`. Just below a power of two the gap is half as wide as above, and the bound
is attained there.
-/

namespace ShaderDiagnostics.Binary.Format

open Number

variable {f : Format} {m m' : ℕ} {q q' : ℤ}

/-! ## Gaps -/

/-- Numbers whose exponent is not lower lie on the grid of the number's last bit. -/
theorem IsCanonical.gap_of_le (h : f.IsCanonical m q) (hle : q ≤ q')
    (hne : magnitude m q ≠ magnitude m' q') :
    magnitude m q ≤ 2 ^ (f.fractionBits + 1) * |magnitude m q - magnitude m' q'| := by
  have hpos : (0 : ℚ) < 2 ^ q := by positivity
  rw [magnitude_eq_of_le m' hle] at hne ⊢
  rw [magnitude, ← sub_mul, abs_mul, abs_of_pos hpos, ← mul_assoc]
  apply mul_le_mul_of_nonneg_right _ hpos.le
  have hapart : (1 : ℚ) ≤ |(m : ℚ) - ((m' * 2 ^ (q' - q).toNat : ℕ) : ℚ)| := by
    have hint : (1 : ℤ) ≤ |(m : ℤ) - ((m' * 2 ^ (q' - q).toNat : ℕ) : ℤ)| := by
      apply Int.one_le_abs
      intro hc
      apply hne
      rw [magnitude]
      congr 1
      exact_mod_cast sub_eq_zero.mp hc
    exact_mod_cast hint
  have hfits : (m : ℚ) ≤ 2 ^ (f.fractionBits + 1) := by exact_mod_cast h.fits.le
  calc (m : ℚ) ≤ 2 ^ (f.fractionBits + 1) * 1 := by rw [mul_one]; exact hfits
    _ ≤ _ := mul_le_mul_of_nonneg_left hapart (by positivity)

/-- Numbers with a lower exponent lie below the number, which then has the leading bit; the nearest
of them has every bit set. -/
theorem IsCanonical.gap_of_lt (h : f.IsCanonical m q) (h' : f.IsCanonical m' q') (hlt : q' < q) :
    magnitude m q ≤ 2 ^ (f.fractionBits + 1) * |magnitude m q - magnitude m' q'| := by
  have hone : (1 : ℚ) ≤ 2 ^ f.fractionBits := one_le_pow₀ (by norm_num)
  have hm : (2 : ℚ) ^ f.fractionBits ≤ m := by
    exact_mod_cast h.normal (lt_of_le_of_lt h'.lowest_le hlt)
  have hm' : (m' : ℚ) + 1 ≤ 2 * 2 ^ f.fractionBits := by
    rw [← pow_succ']
    exact_mod_cast h'.fits
  have hp : (0 : ℚ) < 2 ^ (q - 1) := by positivity
  have hq : (2 : ℚ) ^ q = 2 * 2 ^ (q - 1) := by
    rw [← zpow_one_add₀ (by norm_num), add_sub_cancel]
  have hbelow : magnitude m' q' ≤ (2 * 2 ^ f.fractionBits - 1) * 2 ^ (q - 1) := by
    have hstep : (2 : ℚ) ^ q' ≤ 2 ^ (q - 1) := zpow_le_zpow_right₀ (by norm_num) (by omega)
    exact mul_le_mul (by linarith) hstep (by positivity) (by linarith)
  have hgap : (2 * m - 2 * 2 ^ f.fractionBits + 1) * 2 ^ (q - 1) ≤
      |magnitude m q - magnitude m' q'| := by
    refine le_trans ?_ (le_abs_self _)
    rw [magnitude, hq]
    linarith
  have hwide : (m : ℚ) ≤ 2 ^ f.fractionBits * (2 * m - 2 * 2 ^ f.fractionBits + 1) := by
    nlinarith
  calc magnitude m q = 2 * m * 2 ^ (q - 1) := by rw [magnitude, hq]; ring
    _ ≤ 2 * (2 ^ f.fractionBits * (2 * m - 2 * 2 ^ f.fractionBits + 1)) * 2 ^ (q - 1) := by
        apply mul_le_mul_of_nonneg_right _ hp.le
        linarith
    _ = 2 ^ (f.fractionBits + 1) *
          ((2 * m - 2 * 2 ^ f.fractionBits + 1) * 2 ^ (q - 1)) := by ring
    _ ≤ _ := mul_le_mul_of_nonneg_left hgap (by positivity)

/-- **The gap around a number**, for magnitudes: at least the number divided by
`2 ^ (fractionBits + 1)`. -/
theorem IsCanonical.gap (h : f.IsCanonical m q) (h' : f.IsCanonical m' q')
    (hne : magnitude m q ≠ magnitude m' q') :
    magnitude m q ≤ 2 ^ (f.fractionBits + 1) * |magnitude m q - magnitude m' q'| := by
  rcases le_or_gt q q' with hle | hlt
  · exact h.gap_of_le hle hne
  · exact h.gap_of_lt h' hlt

/-- **The gap around a number**, on either side of zero. -/
theorem abs_le_mul_dist {word word' : ℕ} {x y : ℚ} (hx : (f.decode word).value? = some x)
    (hy : (f.decode word').value? = some y) (hne : x ≠ y) :
    |x| ≤ 2 ^ (f.fractionBits + 1) * |x - y| := by
  obtain ⟨s, m, q, hd, rfl⟩ := value?_eq_some hx
  obtain ⟨s', m', q', hd', rfl⟩ := value?_eq_some hy
  have ha := magnitude_nonneg m q
  have hb := magnitude_nonneg m' q'
  have hgap := (isCanonical_of_decode hd).gap (isCanonical_of_decode hd')
  have hone : (1 : ℚ) ≤ 2 ^ (f.fractionBits + 1) := one_le_pow₀ (by norm_num)
  -- numbers of different signs are apart by the sum of their magnitudes
  have hsum : magnitude m q ≤
      2 ^ (f.fractionBits + 1) * (magnitude m q + magnitude m' q') := by nlinarith
  cases s <;> cases s'
  · simp only [Bool.false_eq_true, if_false] at hne ⊢
    rw [abs_of_nonneg ha]
    exact hgap hne
  · simp only [Bool.false_eq_true, if_false, if_true, sub_neg_eq_add]
    rw [abs_of_nonneg ha, abs_of_nonneg (add_nonneg ha hb)]
    exact hsum
  · simp only [Bool.false_eq_true, if_false, if_true, abs_neg]
    rw [abs_of_nonneg ha, ← neg_add', abs_neg, abs_of_nonneg (add_nonneg ha hb)]
    exact hsum
  · simp only [if_true, abs_neg] at hne ⊢
    rw [abs_of_nonneg ha, neg_sub_neg, abs_sub_comm]
    exact hgap (fun hc => hne (congrArg Neg.neg hc))

end ShaderDiagnostics.Binary.Format
