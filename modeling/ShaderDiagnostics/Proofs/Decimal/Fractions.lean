import Mathlib
import ShaderDiagnostics.Decimal.General
/-!
# Fractions without superfluous zeros

The text that is left of a numeral with all its places once the zeros at its end are gone. The main
statement is `trimFraction_fixedText`: the whole part keeps all its digits, and behind it stand the
digits of the fraction up to the last that is not `0` (`fractionDigits`), with a point in front if
there are any. `fractionDigits_value` says that they still stand for the same fraction.
-/

namespace ShaderDiagnostics.Decimal

/-! ## Digits -/

/-- Every character is a decimal digit. -/
def AllDigits (text : List Char) : Prop :=
  ∀ c ∈ text, c.isDigit = true

/-- What is no digit does not stand among digits. -/
theorem AllDigits.not_mem {text : List Char} (h : AllDigits text) {c : Char}
    (hc : c.isDigit = false) : c ∉ text := by
  intro hmem
  rw [h c hmem] at hc
  exact absurd hc (by simp)

theorem AllDigits.append {a b : List Char} (ha : AllDigits a) (hb : AllDigits b) :
    AllDigits (a ++ b) :=
  List.forall_mem_append.mpr ⟨ha, hb⟩

theorem allDigits_decimalDigits (n : ℕ) : AllDigits (Numeral.decimalDigits n) := by
  intro c hc
  exact Numeral.isDigit_of_mem_decimalDigits hc

/-- What is no digit, such as a separator, does not stand in a numeral. -/
theorem not_mem_decimalDigits {c : Char} (hc : c.isDigit = false) (n : ℕ) :
    c ∉ Numeral.decimalDigits n :=
  (allDigits_decimalDigits n).not_mem hc

theorem allDigits_replicate_zero (k : ℕ) : AllDigits (List.replicate k '0') := by
  intro c hc
  rw [List.eq_of_mem_replicate hc]
  rfl

theorem allDigits_paddedDigits (width n : ℕ) : AllDigits (Numeral.paddedDigits width n) :=
  (allDigits_replicate_zero _).append (allDigits_decimalDigits n)

/-- A number below `10 ^ width` fits the width exactly. -/
theorem length_paddedDigits {width n : ℕ} (hw : 0 < width) (hn : n < 10 ^ width) :
    (Numeral.paddedDigits width n).length = width := by
  have hlen : (Numeral.decimalDigits n).length ≤ width :=
    (Nat.length_toDigits_le_iff (by norm_num) hw).mpr hn
  unfold Numeral.paddedDigits
  rw [List.length_append, List.length_replicate]
  omega

/-! ## Trimming -/

/-- What trimming takes away is a row of the character. -/
theorem trimEnd_append_replicate (c : Char) (text : List Char) :
    ∃ k, text = trimEnd c text ++ List.replicate k c := by
  refine ⟨(text.rtakeWhile (· == c)).length, ?_⟩
  have htail : text.rtakeWhile (· == c) =
      List.replicate (text.rtakeWhile (· == c)).length c := by
    rw [List.eq_replicate_iff]
    refine ⟨rfl, ?_⟩
    intro b hb
    simpa using List.mem_rtakeWhile_imp hb
  rw [← htail]
  exact List.rdropWhile_append_rtakeWhile.symm

theorem AllDigits.trimmed {text : List Char} (h : AllDigits text) (c : Char) :
    AllDigits (trimEnd c text) := by
  intro d hd
  have hle : trimEnd c text <+: text := List.rdropWhile_prefix (· == c) text
  exact h d (hle.mem hd)

/-- Trimming leaves a text alone that does not end in the character. -/
theorem trimEnd_eq_self {c : Char} {text : List Char} (h : ∀ ne : text ≠ [], text.getLast ne ≠ c) :
    trimEnd c text = text := by
  refine (List.rdropWhile_eq_self_iff (p := (· == c))).mpr ?_
  intro ne
  simpa using h ne

/-- Trimming a text in two parts starts on the second, and reaches the first if that is used up. -/
theorem trimEnd_append (c : Char) (a b : List Char) :
    trimEnd c (a ++ b) = if trimEnd c b = [] then trimEnd c a else a ++ trimEnd c b := by
  unfold trimEnd
  rw [List.reverse_append, List.dropWhile_append]
  simp only [List.isEmpty_iff, List.reverse_eq_nil_iff]
  split_ifs
  · rfl
  · rw [List.reverse_append, List.reverse_reverse]

/-- Digits behind a point, with the point; nothing where there are none. -/
def afterPoint : List Char → List Char
  | [] => []
  | digits => '.' :: digits

theorem afterPoint_of_ne_nil {digits : List Char} (h : digits ≠ []) :
    afterPoint digits = '.' :: digits := by
  cases digits with
  | nil => exact absurd rfl h
  | cons c digits => rfl

/-- Trimming a numeral with a point never touches the whole part. -/
theorem trimFraction_point {whole fraction : List Char} (hw : AllDigits whole)
    (hf : AllDigits fraction) :
    trimFraction (whole ++ '.' :: fraction) = whole ++ afterPoint (trimEnd '0' fraction) := by
  have hpoint : (whole ++ '.' :: fraction).contains '.' = true := by simp
  have hkeep : trimEnd '0' (whole ++ ['.']) = whole ++ ['.'] := by
    apply trimEnd_eq_self
    intro ne
    rw [List.getLast_append_singleton]
    decide
  unfold trimFraction
  rw [if_pos hpoint, List.append_cons, trimEnd_append, hkeep]
  split_ifs with h
  · -- no digit is left behind the point, so the point goes too
    rw [h, trimEnd_append, if_pos (by rfl)]
    rw [trimEnd_eq_self, afterPoint, List.append_nil]
    intro ne hlast
    exact hw.not_mem rfl (hlast ▸ List.getLast_mem ne)
  · rw [afterPoint_of_ne_nil h, trimEnd_eq_self, List.append_assoc, List.singleton_append]
    intro ne hlast
    rw [List.getLast_append_of_ne_nil _ h] at hlast
    exact (hf.trimmed '0').not_mem rfl (hlast ▸ List.getLast_mem h)

/-- A numeral without a point keeps its zeros. -/
theorem trimFraction_digits {digits : List Char} (h : AllDigits digits) :
    trimFraction digits = digits := by
  unfold trimFraction
  rw [if_neg]
  rw [List.contains_iff_mem]
  exact h.not_mem rfl

/-! ## Numerals with places -/

/-- The digits of the fraction of `n / 10 ^ places`, without the zeros at their end. -/
def fractionDigits (places n : ℕ) : List Char :=
  trimEnd '0' (Numeral.paddedDigits places (n % 10 ^ places))

theorem allDigits_fractionDigits (places n : ℕ) : AllDigits (fractionDigits places n) :=
  (allDigits_paddedDigits _ _).trimmed '0'

/-- Without places there is no fraction. -/
theorem fractionDigits_zero (n : ℕ) : fractionDigits 0 n = [] := by
  rw [fractionDigits, pow_zero, Nat.mod_one]
  rfl

/-- Trimming takes digits away and adds none. -/
theorem length_fractionDigits_le (places n : ℕ) : (fractionDigits places n).length ≤ places := by
  rcases Nat.eq_zero_or_pos places with rfl | hp
  · rw [fractionDigits_zero]
    exact le_rfl
  · have hlen := length_paddedDigits hp (Nat.mod_lt n (by positivity : 0 < 10 ^ places))
    exact (List.rdropWhile_prefix (· == '0') _).length_le.trans_eq hlen

/-- **The shape of a trimmed numeral**: all digits of the whole part, and the digits of the fraction
that are left. -/
theorem trimFraction_fixedText (places n : ℕ) :
    trimFraction (fixedText places n) =
      Numeral.decimalDigits (n / 10 ^ places) ++ afterPoint (fractionDigits places n) := by
  unfold fixedText fractionDigits
  rw [show Numeral.powerOfTen places = 10 ^ places from rfl]
  split_ifs with h
  · rw [List.append_nil, trimFraction_digits (allDigits_decimalDigits _), h, ← fractionDigits,
      fractionDigits_zero, afterPoint, List.append_nil]
  · exact trimFraction_point (allDigits_decimalDigits _) (allDigits_paddedDigits _ _)

/-- The digits that are left stand for the same fraction. -/
theorem fractionDigits_value (places n : ℕ) :
    (Numeral.ofDecimalDigits (fractionDigits places n) : ℚ) / 10 ^ (fractionDigits places n).length =
      ((n % 10 ^ places : ℕ) : ℚ) / 10 ^ places := by
  rcases Nat.eq_zero_or_pos places with rfl | hp
  · rw [pow_zero, Nat.mod_one, fractionDigits_zero]
    rfl
  · obtain ⟨k, hk⟩ := trimEnd_append_replicate '0'
      (Numeral.paddedDigits places (n % 10 ^ places))
    have hlen := length_paddedDigits hp (Nat.mod_lt n (by positivity : 0 < 10 ^ places))
    have hval := Numeral.ofDecimalDigits_paddedDigits places (n % 10 ^ places)
    rw [← fractionDigits] at hk
    rw [hk, List.length_append, List.length_replicate] at hlen
    rw [hk, Numeral.ofDecimalDigits, Nat.ofDigitChars_append, Nat.ofDigitChars_replicate_zero]
      at hval
    have hpow : (10 : ℚ) ^ places = 10 ^ k * 10 ^ (fractionDigits places n).length := by
      rw [← pow_add, add_comm, hlen]
    rw [← hval, hpow]
    push_cast
    rw [mul_div_mul_left _ _ (by positivity)]
    rfl

end ShaderDiagnostics.Decimal
