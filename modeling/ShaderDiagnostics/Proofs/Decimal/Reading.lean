import Mathlib
import ShaderDiagnostics.Proofs.Decimal.Fractions
/-!
# Reading numerals

What a numeral says: its sign, the number it stands for, and whether it is positional or scientific
(`Reading.ofText?`). The reader knows nothing of how numerals are written: it splits a text at `e`
and at the point and adds up digits.

The main statements say what it reads from the texts that are written:
`positional?_trimFraction_fixedText` for a numeral with places and `exponent?_exponentText` for an
exponent, and `unsigned?_positional` and `unsigned?_scientific` for the two notations as a whole.
-/

namespace ShaderDiagnostics.Decimal

/-! ## The reader -/

/-- What a numeral says. -/
structure Reading where
  /-- Whether a `-` stands in front. -/
  negative : Bool
  /-- The number behind the sign. -/
  magnitude : ℚ
  /-- The exponent, in scientific notation. -/
  exponent : Option ℤ

namespace Reading

/-- The number that the text stands for. -/
def value (r : Reading) : ℚ :=
  if r.negative then -r.magnitude else r.magnitude

/-- The number of a row of digits, of which there must be one. -/
def natural? (text : List Char) : Option ℕ :=
  if text ≠ [] ∧ text.all Char.isDigit then some (Numeral.ofDecimalDigits text) else none

/-- The number of a positional numeral: digits, or digits on both sides of a point. -/
def positional? (text : List Char) : Option ℚ :=
  match text.splitOn '.' with
  | [whole] => (natural? whole).map fun n : ℕ => (n : ℚ)
  | [whole, fraction] => do
      let n ← natural? whole
      let f ← natural? fraction
      return (n : ℚ) + (f : ℚ) / 10 ^ fraction.length
  | _ => none

/-- The number of an exponent: digits behind a sign. -/
def exponent? : List Char → Option ℤ
  | '+' :: digits => (natural? digits).map fun n : ℕ => (n : ℤ)
  | '-' :: digits => (natural? digits).map fun n : ℕ => -(n : ℤ)
  | _ => none

/-- Read a numeral behind its sign: a positional numeral, or one with an `e` and an exponent. -/
def unsigned? (negative : Bool) (text : List Char) : Option Reading :=
  match text.splitOn 'e' with
  | [mantissa] => (positional? mantissa).map fun x => ⟨negative, x, none⟩
  | [mantissa, exponent] => do
      let x ← positional? mantissa
      let e ← exponent? exponent
      return ⟨negative, x * 10 ^ e, some e⟩
  | _ => none

/-- Read a numeral. -/
def ofText? : List Char → Option Reading
  | '-' :: text => unsigned? true text
  | text => unsigned? false text

/-! ## Digits -/

/-- A row of digits is read as what it stands for. -/
theorem natural?_eq {text : List Char} (hne : text ≠ []) (h : AllDigits text) :
    natural? text = some (Numeral.ofDecimalDigits text) := by
  unfold natural?
  rw [if_pos]
  exact ⟨hne, List.all_eq_true.mpr h⟩

theorem natural?_paddedDigits (width n : ℕ) : natural? (Numeral.paddedDigits width n) = some n := by
  have hne : Numeral.paddedDigits width n ≠ [] := by
    unfold Numeral.paddedDigits
    exact List.append_ne_nil_of_right_ne_nil _ (Numeral.decimalDigits_ne_nil n)
  rw [natural?_eq hne (allDigits_paddedDigits width n), Numeral.ofDecimalDigits_paddedDigits]

/-! ## Positional numerals -/

/-- Whole digits and digits behind a point read as their sum. -/
theorem positional?_afterPoint {whole fraction : List Char} (hw : AllDigits whole)
    (hne : whole ≠ []) (hf : AllDigits fraction) :
    positional? (whole ++ afterPoint fraction) =
      some ((Numeral.ofDecimalDigits whole : ℚ) +
        (Numeral.ofDecimalDigits fraction : ℚ) / 10 ^ fraction.length) := by
  unfold positional?
  by_cases h : fraction = []
  · rw [h, afterPoint, List.append_nil, List.splitOn_eq_singleton (hw.not_mem rfl)]
    simp [natural?_eq hne hw, Numeral.ofDecimalDigits]
  · rw [afterPoint_of_ne_nil h, List.splitOn_append_cons_self_of_not_mem (hw.not_mem rfl),
      List.splitOn_eq_singleton (hf.not_mem rfl)]
    simp [natural?_eq hne hw, natural?_eq h hf]

/-- **A numeral reads as the number it was written for**, with its zeros trimmed. -/
theorem positional?_trimFraction_fixedText (places n : ℕ) :
    positional? (trimFraction (fixedText places n)) = some ((n : ℚ) / 10 ^ places) := by
  rw [trimFraction_fixedText, positional?_afterPoint (allDigits_decimalDigits _)
    (Numeral.decimalDigits_ne_nil _) (allDigits_fractionDigits places n),
    Numeral.ofDecimalDigits_decimalDigits, fractionDigits_value]
  congr 1
  rw [eq_div_iff (by positivity), add_mul, div_mul_cancel₀ _ (by positivity)]
  exact_mod_cast Nat.div_add_mod' n (10 ^ places)

/-- Digits and points hold no other character. -/
theorem not_mem_trimFraction_fixedText {c : Char} (hc : c.isDigit = false) (hp : c ≠ '.')
    (places n : ℕ) : c ∉ trimFraction (fixedText places n) := by
  rw [trimFraction_fixedText, List.mem_append]
  rintro (h | h)
  · exact not_mem_decimalDigits hc _ h
  · by_cases hf : fractionDigits places n = []
    · rw [hf, afterPoint] at h
      exact absurd h List.not_mem_nil
    · rw [afterPoint_of_ne_nil hf, List.mem_cons] at h
      rcases h with h | h
      · exact hp h
      · exact (allDigits_fractionDigits places n).not_mem hc h

/-! ## Exponents -/

/-- The text of an exponent starts with its only mark, and is read back behind it. -/
theorem exponent?_exponentText (e : ℤ) :
    ∃ tail, exponentText e = 'e' :: tail ∧ 'e' ∉ tail ∧ exponent? tail = some e := by
  have hmem : 'e' ∉ Numeral.paddedDigits 2 e.natAbs :=
    (allDigits_paddedDigits 2 e.natAbs).not_mem rfl
  unfold exponentText
  split_ifs with h
  · refine ⟨_, rfl, ?_, ?_⟩
    · exact List.not_mem_cons_of_ne_of_not_mem (by decide) hmem
    · rw [exponent?, natural?_paddedDigits, Option.map_some, Option.some_inj]
      omega
  · refine ⟨_, rfl, ?_, ?_⟩
    · exact List.not_mem_cons_of_ne_of_not_mem (by decide) hmem
    · rw [exponent?, natural?_paddedDigits, Option.map_some, Option.some_inj]
      omega

/-! ## Whole numerals -/

/-- A text with a fixed number of places is read as so many units of the last place. -/
theorem unsigned?_positional (negative : Bool) (places n : ℕ) :
    unsigned? negative (trimFraction (fixedText places n)) =
      some ⟨negative, (n : ℚ) / 10 ^ places, none⟩ := by
  unfold unsigned?
  rw [List.splitOn_eq_singleton (not_mem_trimFraction_fixedText rfl (by decide) places n)]
  dsimp only
  rw [positional?_trimFraction_fixedText, Option.map_some]

/-- An exponent behind such a text multiplies it by a power of ten. -/
theorem unsigned?_scientific (negative : Bool) (places n : ℕ) (e : ℤ) :
    unsigned? negative (trimFraction (fixedText places n) ++ exponentText e) =
      some ⟨negative, (n : ℚ) / 10 ^ places * 10 ^ e, some e⟩ := by
  obtain ⟨tail, htail, hmem, he⟩ := exponent?_exponentText e
  unfold unsigned?
  rw [htail, List.splitOn_append_cons_self_of_not_mem
    (not_mem_trimFraction_fixedText rfl (by decide) places n), List.splitOn_eq_singleton hmem]
  dsimp only
  rw [positional?_trimFraction_fixedText, he]
  rfl

/-- A numeral starts with a digit, so it does not start with a sign. -/
theorem head?_trimFraction_fixedText (places n : ℕ) (rest : List Char) :
    (trimFraction (fixedText places n) ++ rest).head? ≠ some '-' := by
  rw [trimFraction_fixedText, List.append_assoc,
    List.head?_append_of_ne_nil _ (Numeral.decimalDigits_ne_nil _)]
  intro h
  exact not_mem_decimalDigits rfl _ (List.mem_of_head? h)

/-- A sign in front of an unsigned numeral is read as its sign. -/
theorem ofText?_signText {text : List Char} (h : text.head? ≠ some '-') (negative : Bool) :
    ofText? (signText negative ++ text) = unsigned? negative text := by
  cases negative with
  | true => rfl
  | false =>
      unfold ofText?
      split
      · rename_i rest hrest
        rw [show signText false ++ text = text from rfl] at hrest
        rw [hrest] at h
        exact absurd rfl h
      · rfl

/-- A text starts with a minus exactly if a sign is put in front of it. -/
theorem head?_signText {text : List Char} (h : text.head? ≠ some '-') (negative : Bool) :
    (signText negative ++ text).head? = some '-' ↔ negative = true := by
  cases negative with
  | true => exact iff_of_true rfl rfl
  | false => exact iff_of_false h (by decide)

end Reading

end ShaderDiagnostics.Decimal
