import Mathlib
import ShaderDiagnostics.Primitive
import ShaderDiagnostics.Proofs.Binary.Canonical
import ShaderDiagnostics.Proofs.Decimal.Reading
import ShaderDiagnostics.Proofs.Decimal.Rounding
/-!
# What a number in general notation says

The text of a finite number stands for the number rounded to significant digits, no more and no
less (`isGeneralText_numberText`). The notation is chosen by the exponent of the rounded number, and
the positional text rounds the number itself once more, to the places that this exponent leaves;
`roundHalfEven_places` says that both roundings find the same digits.
-/

namespace ShaderDiagnostics.Decimal

/-! ## The two roundings -/

section

variable {precision : ℕ} {x : ℚ} {e : ℤ}

/-- Where the last digit is no whole number, it is one behind the point. -/
theorem lastUnit_eq_inv (he : e < precision) :
    lastUnit precision e = (10 ^ ((precision : ℤ) - 1 - e).toNat)⁻¹ := by
  rw [lastUnit, ← zpow_natCast, Int.toNat_of_nonneg (by omega), ← zpow_neg]
  congr 1
  ring

/-- Rounding to the places that the budget leaves gives the digits from which the exponent was
taken. -/
theorem roundHalfEven_places (hp : 1 ≤ precision) (hx : 0 ≤ x)
    (he : (toSignificant precision x).exponent < precision) :
    roundHalfEven (x * 10 ^ ((precision : ℤ) - 1 - (toSignificant precision x).exponent).toNat) =
      (toSignificant precision x).digits := by
  have hn := isNearestEven_toSignificant hp hx
  rw [lastUnit_eq_inv he, div_inv_eq_mul] at hn
  exact roundHalfEven_eq (mul_nonneg hx (by positivity)) hn

/-! ## The two notations -/

/-- The exponents from -4 up to the precision are written positionally. -/
theorem isPositional_iff (precision : ℕ) (e : ℤ) :
    isPositional precision e = true ↔ -4 ≤ e ∧ e < precision := by
  simp [isPositional]

/-- The text of rounded digits, in the notation that their exponent asks for. -/
def Significant.text (precision : ℕ) (s : Significant) : List Char :=
  if isPositional precision s.exponent then
    trimFraction (fixedText ((precision : ℤ) - 1 - s.exponent).toNat s.digits)
  else trimFraction (fixedText (precision - 1) s.digits) ++ exponentText s.exponent

/-- The text of a number is that of its rounded digits. -/
theorem magnitudeText_eq (hp : 1 ≤ precision) (hx : 0 ≤ x) :
    magnitudeText precision x = (toSignificant precision x).text precision := by
  unfold magnitudeText Significant.text
  rw [max_eq_left hp]
  dsimp only
  split_ifs with h
  · rw [roundHalfEven_places hp hx ((isPositional_iff _ _).mp h).2]
  · rfl

/-- The text of rounded digits stands for their value. -/
theorem ofText?_text (hp : 1 ≤ precision) (negative : Bool) (s : Significant) :
    Reading.ofText? (signText negative ++ s.text precision) =
      some ⟨negative, s.value precision,
        if -4 ≤ s.exponent ∧ s.exponent < precision then none else some s.exponent⟩ := by
  rw [Significant.text, value_eq]
  by_cases h : -4 ≤ s.exponent ∧ s.exponent < precision
  · rw [if_pos ((isPositional_iff _ _).mpr h), if_pos h, Reading.ofText?_signText,
      Reading.unsigned?_positional, lastUnit_eq_inv h.2, div_eq_mul_inv]
    rw [← List.append_nil (trimFraction _)]
    exact Reading.head?_trimFraction_fixedText _ _ _
  · rw [if_neg (fun hc => h ((isPositional_iff _ _).mp hc)), if_neg h, Reading.ofText?_signText
      (Reading.head?_trimFraction_fixedText _ _ _), Reading.unsigned?_scientific, lastUnit,
      zpow_sub₀ (by norm_num)]
    have hplaces : ((precision : ℤ) - 1) = ((precision - 1 : ℕ) : ℤ) := by omega
    rw [hplaces, zpow_natCast, div_mul_eq_mul_div, mul_div_assoc]

/-- **What the text of a non-negative number says**: the number rounded to significant digits,
with an exponent where the notation is scientific. -/
theorem ofText?_magnitudeText (hp : 1 ≤ precision) (hx : 0 ≤ x) (negative : Bool) :
    Reading.ofText? (signText negative ++ magnitudeText precision x) =
      some ⟨negative, (toSignificant precision x).value precision,
        if -4 ≤ (toSignificant precision x).exponent ∧ (toSignificant precision x).exponent < precision
        then none else some (toSignificant precision x).exponent⟩ := by
  rw [magnitudeText_eq hp hx, ofText?_text hp]

/-- The text of a non-negative number starts with a digit. -/
theorem head?_magnitudeText (precision : ℕ) (x : ℚ) :
    (magnitudeText precision x).head? ≠ some '-' := by
  unfold magnitudeText
  dsimp only
  split_ifs
  · rw [← List.append_nil (trimFraction _)]
    exact Reading.head?_trimFraction_fixedText _ _ _
  · exact Reading.head?_trimFraction_fixedText _ _ _

end

/-! ## Numbers -/

/-- The text of a number in general notation with `precision` significant digits: it stands for the
rounded number, it starts with `-` for a set sign bit only, and it has an exponent only where the
exponent of the rounded number is below -4 or has reached the precision. -/
def IsGeneralText (precision : ℕ) (negative : Bool) (magnitude : ℚ) (text : List Char) : Prop :=
  ∃ value e, Rounds precision magnitude value ∧ IsExponent value e ∧
    (text.head? = some '-' ↔ negative = true) ∧
    Reading.ofText? text =
      some ⟨negative, value, if -4 ≤ e ∧ e < precision then none else some e⟩

/-- The text of a finite number is its text in general notation, for every precision. -/
theorem isGeneralText_finite {precision : ℕ} (hp : 1 ≤ precision) (negative : Bool)
    (significand : ℕ) (exponent : ℤ) :
    IsGeneralText precision negative (Binary.Number.magnitude significand exponent)
      (numberText precision (.finite negative significand exponent)) := by
  have hx := Binary.Number.magnitude_nonneg significand exponent
  refine ⟨_, _, rounds_toSignificant hp hx, isExponent_toSignificant hp hx, ?_, ?_⟩
  · exact Reading.head?_signText (head?_magnitudeText _ _) negative
  · exact ofText?_magnitudeText hp hx negative

/-- **Numbers in messages are rounded correctly, once.** In every precision the text of a finite
number is the text in general notation of the number rounded to that many digits; so are the texts
of both floating-point formats in a message, with 18 and with 6 digits. Where the notation is
positional, the second rounding finds the digits of the first. -/
theorem isGeneralText_numberText :
    (∀ precision, 1 ≤ precision → ∀ negative significand exponent,
      IsGeneralText precision negative (Binary.Number.magnitude significand exponent)
        (numberText precision (.finite negative significand exponent))) ∧
    (∀ word negative significand exponent,
      Primitive.double word = .finite negative significand exponent →
        IsGeneralText 18 negative (Binary.Number.magnitude significand exponent)
          (Primitive.float64 word).text.toList) ∧
    (∀ word negative significand exponent,
      Primitive.single word = .finite negative significand exponent →
        IsGeneralText 6 negative (Binary.Number.magnitude significand exponent)
          (Primitive.float32 word).text.toList) ∧
    (∀ precision x, 1 ≤ precision → 0 ≤ x → (toSignificant precision x).exponent < precision →
      roundHalfEven
          (x * 10 ^ ((precision : ℤ) - 1 - (toSignificant precision x).exponent).toNat) =
        (toSignificant precision x).digits) := by
  refine ⟨?_, ?_, ?_, ?_⟩
  · intro precision hp negative significand exponent
    exact isGeneralText_finite hp negative significand exponent
  · intro word negative significand exponent hword
    rw [Primitive.text, String.toList_ofList, hword]
    exact isGeneralText_finite (by decide) negative significand exponent
  · intro word negative significand exponent hword
    rw [Primitive.text, String.toList_ofList, hword]
    exact isGeneralText_finite (by decide) negative significand exponent
  · intro precision x hp hx he
    exact roundHalfEven_places hp hx he

/-- Two numbers whose rounding carries: just below 10, and, in the 32-bit format, just below the
first number that six digits do not write positionally. -/
theorem isGeneralText_carry :
    Primitive.double 0x4023FFFFF29406B3 = .finite false 5629499309033139 (-49) ∧
      numberText 6 (Primitive.double 0x4023FFFFF29406B3) = ['1', '0'] ∧
      IsGeneralText 6 false (Binary.Number.magnitude 5629499309033139 (-49)) ['1', '0'] ∧
      IsGeneralText 18 false (Binary.Number.magnitude 5629499309033139 (-49))
        (Primitive.float64 0x4023FFFFF29406B3).text.toList ∧
      (Primitive.float32 0x497423FB).text.toList = ['1', 'e', '+', '0', '6'] ∧
      IsGeneralText 6 false (Binary.Number.magnitude 15999995 (-4)) ['1', 'e', '+', '0', '6'] ∧
      roundHalfEven (Binary.Number.magnitude 5629499309033139 (-49) * 10 ^ 4) = 100000 := by
  have hdouble : Primitive.double 0x4023FFFFF29406B3 = .finite false 5629499309033139 (-49) := by
    decide +kernel
  have hsingle : Primitive.single 0x497423FB = .finite false 15999995 (-4) := by decide +kernel
  have hten : numberText 6 (.finite false 5629499309033139 (-49)) = ['1', '0'] := by
    decide +kernel
  have hmillion : (Primitive.float32 0x497423FB).text.toList = ['1', 'e', '+', '0', '6'] := by
    rw [Primitive.text, String.toList_ofList, hsingle]
    decide +kernel
  have hrounded : toSignificant 6 (Binary.Number.magnitude 5629499309033139 (-49)) =
      ⟨100000, 1⟩ := by
    decide +kernel
  obtain ⟨hall, hwide, hnarrow, htwice⟩ := isGeneralText_numberText
  refine ⟨hdouble, ?_, ?_, hwide _ _ _ _ hdouble, hmillion, ?_, ?_⟩
  · rw [hdouble, hten]
  · rw [← hten]
    exact hall 6 (by decide) _ _ _
  · rw [← hmillion]
    exact hnarrow _ _ _ _ hsingle
  · have h := htwice 6 (Binary.Number.magnitude 5629499309033139 (-49)) (by decide)
      (Binary.Number.magnitude_nonneg _ _) (by rw [hrounded]; decide)
    rwa [hrounded] at h

end ShaderDiagnostics.Decimal
