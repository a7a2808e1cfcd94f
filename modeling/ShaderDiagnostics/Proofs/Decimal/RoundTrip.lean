import Mathlib
import ShaderDiagnostics.Proofs.Binary.Spacing
import ShaderDiagnostics.Proofs.Decimal.General
/-!
# Eighteen digits tell every 64-bit number apart

The text of a 64-bit floating-point number loses nothing (`float64_text_identifies`). Rounding to 18
digits moves a number by less than half of the gap to any other, so the number that the text stands
for is nearest to the number it was written for, and the sign of a zero is read off the text.
-/

namespace ShaderDiagnostics.Decimal

open Binary Binary.Number

/-! ## Near a number -/

/-- `y` is the value of a 64-bit number, and that of no other lies closer to `r`. -/
structure NearestDouble (r y : ℚ) : Prop where
  isDouble : ∃ word, (Primitive.double word).value? = some y
  closest : ∀ other z, (Primitive.double other).value? = some z → |r - y| ≤ |r - z|

/-- A point that is nearer to `x` than the eighteenth digit reaches is nearer to `x` than to any
other 64-bit number. -/
theorem closer_of_digits {word other : UInt64} {r x y : ℚ}
    (hx : (Primitive.double word).value? = some x) (hy : (Primitive.double other).value? = some y)
    (hne : y ≠ x) (hr : 2 * 10 ^ 17 * |x - r| ≤ |x|) : |r - x| < |r - y| := by
  have hgap := Format.abs_le_mul_dist hx hy hne.symm
  rw [show double.fractionBits + 1 = 53 from rfl] at hgap
  have hpos : 0 < |x - y| := abs_pos.mpr (sub_ne_zero.mpr hne.symm)
  have htriangle : |x - y| ≤ |x - r| + |r - y| := abs_sub_le x r y
  rw [abs_sub_comm r x]
  -- half of the gap is `|x - y| / 2`, and 2 ^ 53 is below 10 ^ 17
  have hhalf : 2 * |x - r| < |x - y| := by
    norm_num at hr hgap
    linarith
  linarith

/-! ## The text of a finite number -/

/-- The text of a finite number reads as a number of the same sign that is the rounding of the
number to 18 digits. -/
theorem exists_reading {word : UInt64} {negative : Bool} {m : ℕ} {q : ℤ}
    (h : Primitive.double word = .finite negative m q) :
    ∃ r, Reading.ofText? (Primitive.float64 word).text.toList = some r ∧ r.negative = negative ∧
      2 * 10 ^ 17 * |magnitude m q - r.magnitude| ≤ magnitude m q := by
  have hgeneral := isGeneralText_finite (by decide : 1 ≤ 18) negative m q
  obtain ⟨value, e, hrounds, -, -, hread⟩ := hgeneral
  have herror := hrounds.error (by decide)
  rw [show 18 - 1 = 17 from rfl] at herror
  rw [Primitive.text, String.toList_ofList, h]
  exact ⟨_, hread, rfl, herror⟩

/-- The same with the sign. -/
theorem exists_reading_value {word : UInt64} {x : ℚ}
    (h : (Primitive.double word).value? = some x) :
    ∃ r, Reading.ofText? (Primitive.float64 word).text.toList = some r ∧
      2 * 10 ^ 17 * |x - r.value| ≤ |x| := by
  obtain ⟨negative, m, q, hd, rfl⟩ := value?_eq_some h
  obtain ⟨r, hr, hs, herror⟩ := exists_reading hd
  refine ⟨r, hr, ?_⟩
  have hm := magnitude_nonneg m q
  unfold Reading.value
  rw [hs]
  cases negative with
  | true =>
      simp only [if_true]
      rw [neg_sub_neg, abs_sub_comm, abs_neg, abs_of_nonneg hm]
      exact herror
  | false =>
      simp only [Bool.false_eq_true, if_false]
      rw [abs_of_nonneg hm]
      exact herror

/-! ## Equal texts -/

/-- The text of an infinity is no numeral. -/
theorem ofText?_infinity (negative : Bool) :
    Reading.ofText? (numberText 18 (.infinity negative)) = none := by
  cases negative <;> rfl

/-- Numbers of equal texts have equal values. -/
theorem value_eq_of_text_eq {a b : UInt64} {x y : ℚ} (hx : (Primitive.double a).value? = some x)
    (hy : (Primitive.double b).value? = some y)
    (h : (Primitive.float64 a).text = (Primitive.float64 b).text) : x = y := by
  by_contra hne
  obtain ⟨r, hr, hra⟩ := exists_reading_value hx
  obtain ⟨r', hr', hrb⟩ := exists_reading_value hy
  rw [h, hr'] at hr
  obtain rfl := Option.some.inj hr
  have h1 := closer_of_digits hx hy (Ne.symm hne) hra
  have h2 := closer_of_digits hy hx hne hrb
  exact lt_asymm h1 h2

/-- A word of the double format has no bits above the sign. -/
theorem double_word_lt (word : UInt64) :
    word.toNat < 2 ^ (double.fractionBits + double.exponentBits + 1) :=
  word.toNat_lt

/-- Finite numbers of equal texts are the same word. -/
theorem word_eq_of_text_eq {a b : UInt64} {s s' : Bool} {m m' : ℕ} {q q' : ℤ}
    (ha : Primitive.double a = .finite s m q) (hb : Primitive.double b = .finite s' m' q')
    (h : (Primitive.float64 a).text = (Primitive.float64 b).text) : a = b := by
  obtain ⟨r, hr, hs, -⟩ := exists_reading ha
  obtain ⟨r', hr', hs', -⟩ := exists_reading hb
  rw [h, hr'] at hr
  obtain rfl := Option.some.inj hr
  obtain rfl : s = s' := hs.symm.trans hs'
  have hvalue := value_eq_of_text_eq (congrArg value? ha) (congrArg value? hb) h
  have hmagnitude : magnitude m q = magnitude m' q' := by
    cases s with
    | true => exact neg_injective hvalue
    | false => exact hvalue
  obtain ⟨rfl, rfl⟩ := (Format.isCanonical_of_decode ha).unique (Format.isCanonical_of_decode hb)
    hmagnitude
  exact UInt64.toNat_inj.mp
    (Format.decode_injective_of_finite (double_word_lt a) (double_word_lt b) ha hb)

/-- No finite number is written like an infinity. -/
theorem text_ne_of_infinity {a b : UInt64} {s s' : Bool} {m : ℕ} {q : ℤ}
    (ha : Primitive.double a = .finite s m q) (hb : Primitive.double b = .infinity s') :
    (Primitive.float64 a).text ≠ (Primitive.float64 b).text := by
  intro h
  obtain ⟨r, hr, -⟩ := exists_reading ha
  rw [h, Primitive.text, String.toList_ofList, hb, Primitive.doubleDigits, ofText?_infinity] at hr
  exact absurd hr (by simp)

/-- The infinities are written with their signs. -/
theorem word_eq_of_infinity {a b : UInt64} {s s' : Bool} (ha : Primitive.double a = .infinity s)
    (hb : Primitive.double b = .infinity s')
    (h : (Primitive.float64 a).text = (Primitive.float64 b).text) : a = b := by
  have htext : numberText 18 (Primitive.double a) = numberText 18 (Primitive.double b) :=
    String.ofList_injective h
  rw [ha, hb] at htext
  have hs : s = s' := by
    cases s <;> cases s' <;> first | rfl | exact absurd htext (by decide)
  subst hs
  exact UInt64.toNat_inj.mp
    (Format.decode_injective_of_infinity (double_word_lt a) (double_word_lt b) ha hb)

/-- Texts tell all numbers apart that are not NaN. -/
theorem eq_of_text_eq {a b : UInt64} (ha : (Primitive.float64 a).isNaN = false)
    (hb : (Primitive.float64 b).isNaN = false)
    (h : (Primitive.float64 a).text = (Primitive.float64 b).text) : a = b := by
  cases hda : Primitive.double a with
  | nan => simp [Primitive.isNaN, hda, isNaN] at ha
  | infinity s =>
      cases hdb : Primitive.double b with
      | nan => simp [Primitive.isNaN, hdb, isNaN] at hb
      | infinity s' => exact word_eq_of_infinity hda hdb h
      | finite s' m' q' => exact absurd h.symm (text_ne_of_infinity hdb hda)
  | finite s m q =>
      cases hdb : Primitive.double b with
      | nan => simp [Primitive.isNaN, hdb, isNaN] at hb
      | infinity s' => exact absurd h (text_ne_of_infinity hda hdb)
      | finite s' m' q' => exact word_eq_of_text_eq hda hdb h

/-! ## The round trip -/

/-- **The text of a 64-bit number identifies it.** The number that the text stands for lies strictly
closer to the number it was written for than to any other, which is thus the only one nearest to it;
and words that are not NaN have the same text only if they are the same word. -/
theorem float64_text_identifies :
    (∀ word x, (Primitive.double word).value? = some x →
      ∃ r, Reading.ofText? (Primitive.float64 word).text.toList = some r ∧
        (∀ other y, (Primitive.double other).value? = some y → y ≠ x →
          |r.value - x| < |r.value - y|) ∧
        ∀ y, NearestDouble r.value y ↔ y = x) ∧
    (∀ a b, (Primitive.float64 a).isNaN = false → (Primitive.float64 b).isNaN = false →
      ((Primitive.float64 a).text = (Primitive.float64 b).text ↔ a = b)) := by
  refine ⟨?_, ?_⟩
  · intro word x hx
    obtain ⟨r, hr, herror⟩ := exists_reading_value hx
    have closer : ∀ other y, (Primitive.double other).value? = some y → y ≠ x →
        |r.value - x| < |r.value - y| := by
      intro other y hy hne
      exact closer_of_digits hx hy hne herror
    refine ⟨r, hr, closer, ?_⟩
    intro y
    constructor
    · rintro ⟨⟨other, hy⟩, hclosest⟩
      by_contra hne
      exact not_lt_of_ge (hclosest word x hx) (closer other y hy hne)
    · rintro rfl
      refine ⟨⟨word, hx⟩, ?_⟩
      intro other z hz
      by_cases hzy : z = y
      · rw [hzy]
      · exact (closer other z hz hzy).le
  · intro a b ha hb
    constructor
    · exact eq_of_text_eq ha hb
    · rintro rfl
      rfl

/-- The number nearest to a tenth and the next one above it; and the two zeros. -/
theorem float64_text_identifies_tenth :
    (Primitive.double 0x3FB999999999999A).value? =
        some (3602879701896397 / 36028797018963968) ∧
      (Primitive.double 0x3FB999999999999B).value? =
        some (7205759403792795 / 72057594037927936) ∧
      (∃ r, Reading.ofText? (Primitive.float64 0x3FB999999999999A).text.toList = some r ∧
        |r.value - 3602879701896397 / 36028797018963968| <
          |r.value - 7205759403792795 / 72057594037927936|) ∧
      (Primitive.float64 0x8000000000000000).isNaN = false ∧ (Primitive.float64 0).isNaN = false ∧
      (Primitive.float64 0x8000000000000000).text ≠ (Primitive.float64 0).text := by
  have htenth : (Primitive.double 0x3FB999999999999A).value? =
      some (3602879701896397 / 36028797018963968) := by
    decide +kernel
  have habove : (Primitive.double 0x3FB999999999999B).value? =
      some (7205759403792795 / 72057594037927936) := by
    decide +kernel
  have hminus : (Primitive.float64 0x8000000000000000).isNaN = false := by decide +kernel
  have hzero : (Primitive.float64 0).isNaN = false := by decide +kernel
  obtain ⟨hreads, htexts⟩ := float64_text_identifies
  obtain ⟨r, hr, hcloser, -⟩ := hreads _ _ htenth
  refine ⟨htenth, habove, ⟨r, hr, hcloser _ _ habove (by norm_num)⟩, hminus, hzero, ?_⟩
  intro h
  exact absurd ((htexts _ _ hminus hzero).mp h) (by decide)

end ShaderDiagnostics.Decimal
