import Mathlib
import ShaderDiagnostics.Binary
/-!
# Words and finite numbers

A finite number of a format is a sign with a significand and an exponent that a word may have
(`Format.IsCanonical`). Such a pair is known by its value (`Format.IsCanonical.unique`), and with a
sign it has one word (`Format.decode_injective_of_finite`), so no word but the two zeros shares its
value with another.
-/

namespace ShaderDiagnostics.Binary

open Number

/-! ## Values -/

namespace Number

/-- The value of a finite number; both zeros have the value 0. -/
def value? : Number → Option ℚ
  | finite negative significand exponent =>
      some (if negative then -magnitude significand exponent else magnitude significand exponent)
  | _ => none

theorem magnitude_nonneg (significand : ℕ) (exponent : ℤ) : 0 ≤ magnitude significand exponent :=
  mul_nonneg (Nat.cast_nonneg significand) (by positivity)

/-- A value is that of a finite number: its magnitude, with the sign. -/
theorem value?_eq_some {n : Number} {x : ℚ} (h : n.value? = some x) :
    ∃ negative significand exponent, n = finite negative significand exponent ∧
      x = if negative then -magnitude significand exponent else magnitude significand exponent := by
  cases n with
  | nan => exact absurd h (by simp [value?])
  | infinity => exact absurd h (by simp [value?])
  | finite negative significand exponent =>
      exact ⟨negative, significand, exponent, rfl, (Option.some.inj h).symm⟩

end Number

namespace Format

variable {f : Format}

/-! ## Words -/

theorem fraction_eq (word : ℕ) : f.fraction word = word % 2 ^ f.fractionBits := by
  rw [fraction, Nat.one_shiftLeft]

/-- The exponent field stands above the fraction and below the sign. -/
theorem exponentField_eq (word : ℕ) :
    f.exponentField word = word / 2 ^ f.fractionBits % 2 ^ f.exponentBits := by
  rw [exponentField, Nat.one_shiftLeft, Nat.shiftRight_eq_div_pow]

/-- A word is put together from its three fields. -/
theorem word_eq {word : ℕ} (h : word < 2 ^ (f.fractionBits + f.exponentBits + 1)) :
    word = (f.signBit word).toNat * 2 ^ (f.fractionBits + f.exponentBits) +
      f.exponentField word * 2 ^ f.fractionBits + f.fraction word := by
  have hsign : (f.signBit word).toNat = word / 2 ^ (f.fractionBits + f.exponentBits) := by
    have hlt : word / 2 ^ (f.fractionBits + f.exponentBits) < 2 := by
      rw [Nat.div_lt_iff_lt_mul (by positivity), ← pow_succ']
      exact h
    rw [signBit, Nat.toNat_testBit, Nat.mod_eq_of_lt hlt]
  rw [hsign, fraction_eq, exponentField_eq, pow_add, ← Nat.div_div_eq_div_mul]
  have h1 := Nat.div_add_mod' word (2 ^ f.fractionBits)
  have h2 := Nat.div_add_mod' (word / 2 ^ f.fractionBits) (2 ^ f.exponentBits)
  rw [mul_comm (2 ^ f.fractionBits), ← mul_assoc, ← add_mul, h2, h1]

/-! ## Canonical pairs -/

/-- The exponent of the numbers without the implicit leading bit, and the lowest of all. -/
def lowestExponent (f : Format) : ℤ :=
  1 - (f.bias : ℤ) - f.fractionBits

/-- A significand and an exponent that a word of the format may have: the significand fits, and it
has the leading bit unless the exponent is the lowest. -/
structure IsCanonical (f : Format) (significand : ℕ) (exponent : ℤ) : Prop where
  fits : significand < 2 ^ (f.fractionBits + 1)
  lowest_le : f.lowestExponent ≤ exponent
  normal : f.lowestExponent < exponent → 2 ^ f.fractionBits ≤ significand

/-- The three kinds of finite words. -/
theorem decode_eq_finite {word significand : ℕ} {negative : Bool} {exponent : ℤ}
    (h : f.decode word = .finite negative significand exponent) :
    negative = f.signBit word ∧
      (f.exponentField word = 0 ∧ significand = f.fraction word ∧ exponent = f.lowestExponent ∨
        f.exponentField word ≠ 0 ∧ significand = 2 ^ f.fractionBits + f.fraction word ∧
          exponent = f.lowestExponent + (f.exponentField word - 1)) := by
  unfold decode at h
  dsimp only at h
  split_ifs at h with htop hfraction hzero
  · obtain ⟨rfl, rfl, rfl⟩ := Number.finite.inj h
    exact ⟨rfl, .inl ⟨hzero, rfl, rfl⟩⟩
  · obtain ⟨rfl, rfl, rfl⟩ := Number.finite.inj h
    refine ⟨rfl, .inr ⟨hzero, ?_, ?_⟩⟩
    · rw [Nat.one_shiftLeft]
    · rw [lowestExponent]
      ring

/-- The fraction has no more bits than the format gives it. -/
theorem fraction_lt (word : ℕ) : f.fraction word < 2 ^ f.fractionBits := by
  rw [fraction_eq]
  exact Nat.mod_lt _ (by positivity)

/-- What a finite word stands for is canonical. -/
theorem isCanonical_of_decode {word significand : ℕ} {negative : Bool} {exponent : ℤ}
    (h : f.decode word = .finite negative significand exponent) :
    f.IsCanonical significand exponent := by
  have hlt : f.fraction word < 2 ^ f.fractionBits := fraction_lt word
  have htwo : 2 ^ (f.fractionBits + 1) = 2 * 2 ^ f.fractionBits := pow_succ' 2 _
  obtain ⟨-, ⟨-, rfl, rfl⟩ | ⟨hfield, rfl, rfl⟩⟩ := decode_eq_finite h
  · exact ⟨by omega, le_rfl, fun hc => absurd hc (lt_irrefl _)⟩
  · exact ⟨by omega, by omega, fun _ => Nat.le_add_right _ _⟩

/-! ## One pair for each number -/

variable {m m' : ℕ} {q q' : ℤ}

/-- A higher exponent brings a power of two to the significand. -/
theorem magnitude_eq_of_le (m' : ℕ) (h : q ≤ q') :
    magnitude m' q' = ((m' * 2 ^ (q' - q).toNat : ℕ) : ℚ) * 2 ^ q := by
  unfold magnitude
  push_cast
  rw [mul_assoc, ← zpow_natCast, ← zpow_add₀ (by norm_num), Int.toNat_of_nonneg (by omega),
    sub_add_cancel]

/-- The same number is not written with a higher exponent: its significand would lack the leading
bit. -/
theorem IsCanonical.exponent_le (h : f.IsCanonical m q) (h' : f.IsCanonical m' q')
    (heq : magnitude m q = magnitude m' q') : q' ≤ q := by
  by_contra hlt
  rw [not_le] at hlt
  have hm : m = m' * 2 ^ (q' - q).toNat := by
    rw [magnitude_eq_of_le m' hlt.le, magnitude] at heq
    exact_mod_cast mul_right_cancel₀ (by positivity : (2 : ℚ) ^ q ≠ 0) heq
  have hnormal := h'.normal (lt_of_le_of_lt h.lowest_le hlt)
  have htwo : 2 ^ 1 ≤ 2 ^ (q' - q).toNat := Nat.pow_le_pow_right (by norm_num) (by omega)
  have hbig : 2 ^ f.fractionBits * 2 ^ 1 ≤ m := by
    rw [hm]
    exact Nat.mul_le_mul hnormal htwo
  have hfits := h.fits
  rw [pow_succ] at hfits
  omega

/-- A magnitude is written canonically in one way. -/
theorem IsCanonical.unique (h : f.IsCanonical m q) (h' : f.IsCanonical m' q')
    (heq : magnitude m q = magnitude m' q') : m = m' ∧ q = q' := by
  have hq : q = q' := le_antisymm (h'.exponent_le h heq.symm) (h.exponent_le h' heq)
  subst hq
  refine ⟨?_, rfl⟩
  exact_mod_cast mul_right_cancel₀ (by positivity : (2 : ℚ) ^ q ≠ 0) heq

/-- A word is known by the finite number that it stands for, zeros included. -/
theorem decode_injective_of_finite {word word' : ℕ} {negative : Bool}
    (hw : word < 2 ^ (f.fractionBits + f.exponentBits + 1))
    (hw' : word' < 2 ^ (f.fractionBits + f.exponentBits + 1))
    (h : f.decode word = .finite negative m q) (h' : f.decode word' = .finite negative m q) :
    word = word' := by
  have hlt : f.fraction word < 2 ^ f.fractionBits := fraction_lt word
  have hlt' : f.fraction word' < 2 ^ f.fractionBits := fraction_lt word'
  obtain ⟨hs, hcases⟩ := decode_eq_finite h
  obtain ⟨hs', hcases'⟩ := decode_eq_finite h'
  -- a significand with the leading bit is not one without it, so the kinds agree
  have hfields : f.exponentField word = f.exponentField word' ∧
      f.fraction word = f.fraction word' := by
    omega
  rw [word_eq hw, word_eq hw', ← hs, ← hs', hfields.1, hfields.2]

/-- There is one word for each infinity. -/
theorem decode_injective_of_infinity {word word' : ℕ} {negative : Bool}
    (hw : word < 2 ^ (f.fractionBits + f.exponentBits + 1))
    (hw' : word' < 2 ^ (f.fractionBits + f.exponentBits + 1))
    (h : f.decode word = .infinity negative) (h' : f.decode word' = .infinity negative) :
    word = word' := by
  have fields : ∀ {w : ℕ}, f.decode w = .infinity negative →
      f.signBit w = negative ∧ f.exponentField w = f.topField ∧ f.fraction w = 0 := by
    intro w hd
    unfold decode at hd
    dsimp only at hd
    split_ifs at hd with htop hfraction
    exact ⟨Number.infinity.inj hd, htop, hfraction⟩
  obtain ⟨hs, ht, hz⟩ := fields h
  obtain ⟨hs', ht', hz'⟩ := fields h'
  rw [word_eq hw, word_eq hw', hs, hs', ht, ht', hz, hz']

end Format

end ShaderDiagnostics.Binary
