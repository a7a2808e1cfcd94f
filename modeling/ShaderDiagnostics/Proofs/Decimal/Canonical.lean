import Mathlib
import ShaderDiagnostics.Proofs.Decimal.General
import ShaderDiagnostics.Proofs.Numeral.Positional
/-!
# The form of a number in general notation

The text of a finite number has one of two forms (`IsCanonicalText`): a positional numeral, or one
digit with a fraction and an exponent. The whole part has no superfluous zero in front, the fraction
none at its end, and together they show no more significant digits than asked for. The form leaves
no choice: numbers that are rounded to the same number have the same text
(`isCanonicalText_numberText`).
-/

namespace ShaderDiagnostics.Decimal

/-! ## Rows of digits -/

/-- A whole part: the single digit `0`, or digits of which the first is not `0`. -/
inductive IsWhole : List Char → Prop where
  | zero : IsWhole ['0']
  | digits {c : Char} {rest : List Char} (hc : c.isDigit = true) (hne : c ≠ '0')
      (hrest : AllDigits rest) : IsWhole (c :: rest)

/-- The digits of a fraction, of which the last is not `0`. There may be none. -/
structure IsFraction (digits : List Char) : Prop where
  allDigits : AllDigits digits
  last : digits.getLast? ≠ some '0'

/-- The digits of an exponent: two, with zeros in front if need be, or more without a zero in
front. -/
structure IsExponentDigits (digits : List Char) : Prop where
  allDigits : AllDigits digits
  two_le : 2 ≤ digits.length
  two : Numeral.ofDecimalDigits digits < 100 → digits.length = 2
  head : 100 ≤ Numeral.ofDecimalDigits digits → digits.head? ≠ some '0'

/-- The digits from the first on that is not `0`. -/
def significant (digits : List Char) : List Char :=
  digits.dropWhile (· == '0')

/-- The text of a number in general notation with at most `precision` significant digits. -/
inductive IsCanonicalText (precision : ℕ) : List Char → Prop where
  /-- A positional numeral. -/
  | positional (negative : Bool) {whole fraction : List Char} (hwhole : IsWhole whole)
      (hfraction : IsFraction fraction)
      (hdigits : (significant (whole ++ fraction)).length ≤ precision) :
      IsCanonicalText precision (signText negative ++ (whole ++ afterPoint fraction))
  /-- A numeral with an exponent; the only digit in front of the point is not `0`. -/
  | scientific (negative : Bool) {first sign : Char} {fraction exponent : List Char}
      (hfirst : first.isDigit = true) (hne : first ≠ '0') (hfraction : IsFraction fraction)
      (hsign : sign = '+' ∨ sign = '-') (hexponent : IsExponentDigits exponent)
      (hdigits : (first :: fraction).length ≤ precision) :
      IsCanonicalText precision
        (signText negative ++ (first :: afterPoint fraction ++ 'e' :: sign :: exponent))

/-! ## Zeros in front -/

/-- A positive digit is not written as zero. -/
theorem digitChar_ne_zero {d : ℕ} (hpos : 0 < d) (hlt : d < 10) : d.digitChar ≠ '0' := by
  interval_cases d <;> decide

/-- The digits of a positive number do not start with `0`. -/
theorem head?_decimalDigits {n : ℕ} (h : 0 < n) : (Numeral.decimalDigits n).head? ≠ some '0' :=
  (Numeral.isNumeral_decimalDigits n).head?_ne h

/-- The numeral of a number has no superfluous zero in front. -/
theorem isWhole_decimalDigits (n : ℕ) : IsWhole (Numeral.decimalDigits n) := by
  rcases Nat.eq_zero_or_pos n with rfl | hpos
  · exact .zero
  · have hall := allDigits_decimalDigits n
    have hhead := head?_decimalDigits hpos
    obtain ⟨c, rest, hdigits⟩ := List.exists_cons_of_ne_nil (Numeral.decimalDigits_ne_nil n)
    rw [hdigits] at hall hhead ⊢
    obtain ⟨hc, hrest⟩ := List.forall_mem_cons.mp hall
    exact .digits hc (fun hzero => hhead (congrArg some hzero)) hrest

/-- A row of digits that does not start with `0` stands for a number of that many digits. -/
theorem pow_le_ofDecimalDigits {c : Char} {rest : List Char} (hc : c.isDigit = true)
    (hne : c ≠ '0') : 10 ^ rest.length ≤ Numeral.ofDecimalDigits (c :: rest) := by
  have hpos : 1 ≤ c.toNat - '0'.toNat := by
    have hge : '0'.toNat ≤ c.toNat := (Char.isDigit_iff_toNat.mp hc).1
    have hne' : c.toNat ≠ '0'.toNat := fun h => hne (Char.toNat_inj.mp h)
    omega
  rw [Numeral.ofDecimalDigits, Nat.ofDigitChars_cons, Nat.ofDigitChars_eq_ofDigitChars_zero,
    Nat.mul_zero, Nat.zero_add]
  calc 10 ^ rest.length = 10 ^ rest.length * 1 := (mul_one _).symm
    _ ≤ 10 ^ rest.length * (c.toNat - '0'.toNat) := Nat.mul_le_mul_left _ hpos
    _ ≤ _ := Nat.le_add_right _ _

/-- Zeros in front are not significant. -/
theorem ofDecimalDigits_significant (digits : List Char) :
    Numeral.ofDecimalDigits (significant digits) = Numeral.ofDecimalDigits digits := by
  induction digits with
  | nil => rfl
  | cons c rest ih =>
      unfold significant at ih ⊢
      rw [List.dropWhile_cons]
      split_ifs with h
      · obtain rfl : c = '0' := by simpa using h
        rw [ih]
        rfl
      · rfl

/-- Digits of a number below `10 ^ precision` show at most `precision` significant digits. -/
theorem length_significant_le {digits : List Char} {precision : ℕ} (h : AllDigits digits)
    (hlt : Numeral.ofDecimalDigits digits < 10 ^ precision) :
    (significant digits).length ≤ precision := by
  rw [← ofDecimalDigits_significant] at hlt
  cases hsig : significant digits with
  | nil => exact Nat.zero_le _
  | cons c rest =>
      have hc : c.isDigit = true := by
        have hmem : c ∈ significant digits := hsig ▸ List.mem_cons_self
        exact h c ((List.dropWhile_suffix _).mem hmem)
      have hne : c ≠ '0' := by
        have hhead := List.head?_dropWhile_not (· == '0') digits
        rw [← significant, hsig] at hhead
        simpa using hhead
      rw [hsig] at hlt
      exact (Nat.pow_lt_pow_iff_right (by norm_num)).mp
        ((pow_le_ofDecimalDigits hc hne).trans_lt hlt)

/-! ## Zeros at the end -/

/-- The digits behind a point, once trimmed, end in no zero. -/
theorem isFraction_fractionDigits (places n : ℕ) : IsFraction (fractionDigits places n) where
  allDigits := allDigits_fractionDigits places n
  last := by
    intro hlast
    obtain ⟨hne, heq⟩ := List.mem_getLast?_eq_getLast hlast
    exact List.rdropWhile_last_not (· == '0') _ hne (beq_iff_eq.mpr heq.symm)

/-- The digits that a numeral shows stand for `n`, but for the zeros that were trimmed. -/
theorem ofDecimalDigits_shown_le (places n : ℕ) :
    Numeral.ofDecimalDigits (Numeral.decimalDigits (n / 10 ^ places) ++ fractionDigits places n) ≤
      n := by
  rcases Nat.eq_zero_or_pos places with rfl | hp
  · rw [fractionDigits_zero, List.append_nil, pow_zero, Nat.div_one,
      Numeral.ofDecimalDigits_decimalDigits]
  · obtain ⟨k, hk⟩ := trimEnd_append_replicate '0' (Numeral.paddedDigits places (n % 10 ^ places))
    have hlen := length_paddedDigits hp (Nat.mod_lt n (by positivity : 0 < 10 ^ places))
    have hvalue : Numeral.ofDecimalDigits (Numeral.decimalDigits (n / 10 ^ places) ++
        Numeral.paddedDigits places (n % 10 ^ places)) = n := by
      rw [Numeral.ofDecimalDigits, Nat.ofDigitChars_append, Nat.ofDigitChars_eq_ofDigitChars_zero,
        hlen, ← Numeral.ofDecimalDigits, ← Numeral.ofDecimalDigits,
        Numeral.ofDecimalDigits_decimalDigits, Numeral.ofDecimalDigits_paddedDigits]
      exact Nat.div_add_mod n (10 ^ places)
    rw [hk, ← fractionDigits, ← List.append_assoc, Numeral.ofDecimalDigits,
      Nat.ofDigitChars_append, Nat.ofDigitChars_replicate_zero] at hvalue
    calc Numeral.ofDecimalDigits _
      _ ≤ 10 ^ k * Numeral.ofDecimalDigits _ := Nat.le_mul_of_pos_left _ (by positivity)
      _ = n := hvalue

/-! ## Exponents -/

/-- A numeral that is padded to two digits is fit for an exponent. -/
theorem isExponentDigits_paddedDigits (n : ℕ) : IsExponentDigits (Numeral.paddedDigits 2 n) where
  allDigits := allDigits_paddedDigits 2 n
  two_le := by
    rw [Numeral.paddedDigits, List.length_append, List.length_replicate]
    omega
  two := by
    rw [Numeral.ofDecimalDigits_paddedDigits]
    exact fun hlt => length_paddedDigits (by decide) hlt
  head := by
    rw [Numeral.ofDecimalDigits_paddedDigits]
    intro hge
    have hlength : 2 < (Numeral.decimalDigits n).length := by
      by_contra hle
      have := (Nat.length_toDigits_le_iff (by norm_num : 1 < 10) (by norm_num : 0 < 2)).mp
        (not_lt.mp hle)
      omega
    rw [Numeral.paddedDigits, Nat.sub_eq_zero_of_le hlength.le, List.replicate_zero,
      List.nil_append]
    exact head?_decimalDigits (by omega)

/-! ## Numbers -/

section

variable {precision : ℕ} {s : Significant}

/-- Digits in positional notation have the form of a positional numeral. -/
theorem isCanonicalText_positional (negative : Bool) (hdigits : s.digits < 10 ^ precision)
    (places : ℕ) :
    IsCanonicalText precision (signText negative ++ trimFraction (fixedText places s.digits)) := by
  rw [trimFraction_fixedText]
  refine .positional negative (isWhole_decimalDigits _) (isFraction_fractionDigits _ _) ?_
  refine length_significant_le ?_ ((ofDecimalDigits_shown_le places s.digits).trans_lt hdigits)
  exact (allDigits_decimalDigits _).append (allDigits_fractionDigits _ _)

/-- Digits of which the first is not 0 have that digit in front of the point in scientific
notation. -/
theorem isCanonicalText_scientific (hp : 1 ≤ precision) (negative : Bool)
    (hlow : 10 ^ (precision - 1) ≤ s.digits) (hhigh : s.digits < 10 ^ precision) (e : ℤ) :
    IsCanonicalText precision
      (signText negative ++ (trimFraction (fixedText (precision - 1) s.digits) ++
        exponentText e)) := by
  have hpow : 10 ^ precision = 10 ^ (precision - 1) * 10 := by
    rw [← pow_succ, Nat.sub_add_cancel hp]
  have hpos : 0 < s.digits / 10 ^ (precision - 1) := Nat.div_pos hlow (by positivity)
  have hlt : s.digits / 10 ^ (precision - 1) < 10 :=
    Nat.div_lt_of_lt_mul (hpow ▸ hhigh)
  have hfirst : Numeral.decimalDigits (s.digits / 10 ^ (precision - 1)) =
      [(s.digits / 10 ^ (precision - 1)).digitChar] := Nat.toDigits_of_lt_base hlt
  have hdigit : (s.digits / 10 ^ (precision - 1)).digitChar.isDigit = true :=
    allDigits_decimalDigits _ _ (hfirst ▸ List.mem_singleton_self _)
  have hlength := length_fractionDigits_le (precision - 1) s.digits
  rw [trimFraction_fixedText, hfirst]
  refine .scientific negative hdigit (digitChar_ne_zero hpos hlt) (isFraction_fractionDigits _ _) ?_
    (isExponentDigits_paddedDigits e.natAbs) ?_
  · split_ifs
    · exact .inr rfl
    · exact .inl rfl
  · rw [List.length_cons]
    omega

end

/-- The text of a finite number has one of the two forms. -/
theorem isCanonicalText_finite {precision : ℕ} (hp : 1 ≤ precision) (negative : Bool)
    (significand : ℕ) (exponent : ℤ) :
    IsCanonicalText precision (numberText precision (.finite negative significand exponent)) := by
  have hx := Binary.Number.magnitude_nonneg significand exponent
  rw [numberText, magnitudeText_eq hp hx, Significant.text]
  rcases hx.eq_or_lt with hzero | hpos
  -- zero has no first digit, and is written positionally
  · have hpositional : isPositional precision 0 = true :=
      (isPositional_iff _ _).mpr ⟨by decide, Int.natCast_pos.mpr hp⟩
    rw [← hzero, toSignificant, if_pos rfl, if_pos hpositional]
    exact isCanonicalText_positional negative (by positivity) _
  · obtain ⟨hlow, hhigh⟩ := digits_toSignificant hp hpos
    split_ifs
    · exact isCanonicalText_positional negative hhigh _
    · exact isCanonicalText_scientific hp negative hlow hhigh _

/-- What stands in front of the point of a numeral with places is not touched by trimming. -/
theorem takeWhile_trimFraction_fixedText (places n : ℕ) :
    (trimFraction (fixedText places n)).takeWhile (· != '.') =
      (fixedText places n).takeWhile (· != '.') := by
  have hwhole : ∀ c ∈ Numeral.decimalDigits (n / 10 ^ places), (c != '.') = true := by
    intro c hc
    rw [bne_iff_ne]
    rintro rfl
    exact not_mem_decimalDigits rfl _ hc
  rw [trimFraction_fixedText, fixedText, show Numeral.powerOfTen places = 10 ^ places from rfl,
    List.takeWhile_append_of_pos hwhole, List.takeWhile_append_of_pos hwhole]
  congr 1
  have hafter : (afterPoint (fractionDigits places n)).takeWhile (· != '.') = [] := by
    cases fractionDigits places n <;> rfl
  rw [hafter]
  split_ifs <;> rfl

/-- **The text of a number is in canonical form.** In every precision the text of a finite number
has one of the two forms, with no more significant digits than the precision allows. Trimming keeps
all digits in front of the point. Numbers of one sign that are rounded to the same number have the
same text. -/
theorem isCanonicalText_numberText {precision : ℕ} (hp : 1 ≤ precision) :
    (∀ negative significand exponent,
      IsCanonicalText precision (numberText precision (.finite negative significand exponent))) ∧
    (∀ places n, (trimFraction (fixedText places n)).takeWhile (· != '.') =
      (fixedText places n).takeWhile (· != '.')) ∧
    (∀ negative significand significand' exponent exponent' value,
      Rounds precision (Binary.Number.magnitude significand exponent) value →
      Rounds precision (Binary.Number.magnitude significand' exponent') value →
        numberText precision (.finite negative significand exponent) =
          numberText precision (.finite negative significand' exponent')) := by
  refine ⟨?_, ?_, ?_⟩
  · intro negative significand exponent
    exact isCanonicalText_finite hp negative significand exponent
  · exact takeWhile_trimFraction_fixedText
  · intro negative m m' q q' value h h'
    have hx := Binary.Number.magnitude_nonneg m q
    have hy := Binary.Number.magnitude_nonneg m' q'
    rw [numberText, numberText, magnitudeText_eq hp hx, magnitudeText_eq hp hy,
      toSignificant_eq_of_rounds hp hx hy h h']

/-- A number just below 10 and 10 itself, which six digits do not tell apart. The zero of `10` is
kept. -/
theorem isCanonicalText_ten :
    Rounds 6 (Binary.Number.magnitude 5629499309033139 (-49)) 10 ∧
      Rounds 6 (Binary.Number.magnitude 5 1) 10 ∧
      numberText 6 (.finite true 5629499309033139 (-49)) = ['-', '1', '0'] ∧
      IsCanonicalText 6 ['-', '1', '0'] ∧
      numberText 6 (.finite true 5 1) = ['-', '1', '0'] ∧
      (trimFraction (fixedText 4 100000)).takeWhile (· != '.') = ['1', '0'] := by
  have hbelow : toSignificant 6 (Binary.Number.magnitude 5629499309033139 (-49)) = ⟨100000, 1⟩ := by
    decide +kernel
  have hten : toSignificant 6 (Binary.Number.magnitude 5 1) = ⟨100000, 1⟩ := by decide +kernel
  have htext : numberText 6 (.finite true 5629499309033139 (-49)) = ['-', '1', '0'] := by
    decide +kernel
  have hvalue : (⟨100000, 1⟩ : Significant).value 6 = 10 := by
    rw [Significant.value]
    norm_num
  have hrounds := rounds_toSignificant (by decide : 1 ≤ 6)
    (Binary.Number.magnitude_nonneg 5629499309033139 (-49))
  have hrounds' := rounds_toSignificant (by decide : 1 ≤ 6) (Binary.Number.magnitude_nonneg 5 1)
  rw [hbelow, hvalue] at hrounds
  rw [hten, hvalue] at hrounds'
  obtain ⟨hform, hkept, hsame⟩ := isCanonicalText_numberText (by decide : 1 ≤ 6)
  refine ⟨hrounds, hrounds', htext, ?_, ?_, ?_⟩
  · rw [← htext]
    exact hform _ _ _
  · rw [← hsame true _ _ _ _ 10 hrounds hrounds', htext]
  · rw [hkept]
    decide

end ShaderDiagnostics.Decimal
