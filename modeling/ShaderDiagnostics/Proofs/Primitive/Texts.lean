import Mathlib
import ShaderDiagnostics.Primitive
import ShaderDiagnostics.Proofs.Numeral.Positional
/-!
# Texts of integers and addresses

The text of an integer is its decimal numeral with a sign if it is negative, whatever type the integer
has (`text_eq_signed`). The text of an address is its hexadecimal numeral behind `0x`, and the null
address has a word of its own (`isAddressText_text`). So integers of all types are known from their
texts, and so are addresses (`text_decodes`).
-/

namespace ShaderDiagnostics.Primitive

/-! ## Integers -/

/-- The number that a value of one of the integer types is. -/
def integer? : Primitive → Option ℤ
  | int16 v => some v.toInt
  | uint16 v => some v.toNat
  | int32 v => some v.toInt
  | uint32 v => some v.toNat
  | int64 v => some v.toInt
  | uint64 v => some v.toNat
  | intSize v => some v.toInt
  | uintSize v => some v.toNat
  | float32 _ | float64 _ | bool _ | address _ => none

/-- The text of an integer depends on the number alone, and not on its type. -/
theorem text_eq_signed {p : Primitive} {n : ℤ} (h : p.integer? = some n) :
    p.text = Numeral.signed n := by
  cases p with
  | int16 v | int32 v | int64 v | intSize v =>
      rw [← Option.some.inj h]
      rfl
  | uint16 v | uint32 v | uint64 v | uintSize v =>
      rw [← Option.some.inj h, Numeral.signed_natCast]
      rfl
  | float32 | float64 | bool | address => cases h

/-! ## Addresses -/

/-- A text is that of an address: a word for the null address, and otherwise a hexadecimal numeral
behind `0x`. -/
structure IsAddressText (address : ℕ) (text : String) : Prop where
  null : text = "(nil)" ↔ address = 0
  numeral : address ≠ 0 →
    ∃ digits, text.toList = '0' :: 'x' :: digits ∧ Numeral.IsNumeral 16 address digits

/-- An address other than 0 is its hexadecimal numeral behind a mark. -/
theorem toList_addressText {a : UInt64} (h : a ≠ 0) :
    (addressText a).toList = '0' :: 'x' :: Numeral.hexDigits a.toNat := by
  rw [addressText, if_neg h, String.toList_append, String.toList_ofList, String.toList_ofList]
  rfl

/-- Every address has the text that is due to it. -/
theorem isAddressText_text (a : UInt64) : IsAddressText a.toNat (address a).text := by
  have hnull : a.toNat = 0 ↔ a = 0 := by
    rw [← UInt64.toNat_inj]
    rfl
  show IsAddressText a.toNat (addressText a)
  constructor
  case null =>
    rw [hnull]
    constructor
    · intro h
      by_contra hne
      have hchars := toList_addressText hne
      -- the two texts differ in the first character
      rw [h] at hchars
      exact absurd (List.cons.inj hchars).1 (by decide)
    · rintro rfl
      rfl
  case numeral =>
    intro hne
    have hchars := toList_addressText (mt hnull.mpr hne)
    exact ⟨_, hchars, Numeral.isNumeral_hexDigits a.toNat⟩

/-- An address is known from its text. -/
theorem IsAddressText.unique {a b : ℕ} {text : String} (ha : IsAddressText a text)
    (hb : IsAddressText b text) : a = b := by
  by_cases hzero : a = 0
  · rw [hzero, hb.null.mp (ha.null.mpr hzero)]
  · have hzero' : b ≠ 0 := fun h => hzero (ha.null.mp (hb.null.mpr h))
    obtain ⟨digits, htext, hdigits⟩ := ha.numeral hzero
    obtain ⟨digits', htext', hdigits'⟩ := hb.numeral hzero'
    rw [htext] at htext'
    obtain rfl := (List.cons.inj (List.cons.inj htext').2).2
    exact hdigits.unique hdigits'

/-! ## All values but floating-point numbers -/

/-- **Integers, addresses and truth values are read off their texts.** The text of an integer is its
decimal numeral, with `-` in front of a negative one; so two integers, of whatever types, have the same
text exactly if they are the same number. An address is read off its text in the same way. -/
theorem text_decodes :
    (∀ (p : Primitive) (n : ℤ), p.integer? = some n → Numeral.IsSigned n p.text) ∧
      (∀ a : UInt64, IsAddressText a.toNat (address a).text) ∧
      (∀ (p q : Primitive) (m n : ℤ), p.integer? = some m → q.integer? = some n →
        (p.text = q.text ↔ m = n)) ∧
      (∀ a b : UInt64, (address a).text = (address b).text ↔ a = b) ∧
      ∀ b : Bool, ((bool b).text = "true" ↔ b = true) ∧ ((bool b).text = "false" ↔ b = false) := by
  refine ⟨?_, isAddressText_text, ?_, ?_, ?_⟩
  · intro p n h
    rw [text_eq_signed h]
    exact Numeral.isSigned_signed n
  · intro p q m n hp hq
    rw [text_eq_signed hp, text_eq_signed hq]
    constructor
    · intro h
      have hm := Numeral.isSigned_signed m
      rw [h] at hm
      exact hm.unique (Numeral.isSigned_signed n)
    · rintro rfl
      rfl
  · intro a b
    constructor
    · intro h
      have ha := isAddressText_text a
      rw [h] at ha
      exact UInt64.toNat_inj.mp (ha.unique (isAddressText_text b))
    · rintro rfl
      rfl
  · decide

/-- The lowest integer of 64 bits, in both types of that width, and the highest one; the lowest one of
16 bits, which is another number. -/
theorem text_decodes_lowest :
    (int64 Int64.minValue).integer? = some (-9223372036854775808) ∧
      (int64 Int64.minValue).text = "-9223372036854775808" ∧
      Numeral.IsSigned (-9223372036854775808) "-9223372036854775808" ∧
      (intSize Int64.minValue).text = (int64 Int64.minValue).text ∧
      (int16 Int16.minValue).text ≠ (int64 Int64.minValue).text ∧
      (uint64 0xFFFFFFFFFFFFFFFF).text = "18446744073709551615" := by
  have hlong : (int64 Int64.minValue).integer? = some (-9223372036854775808) := by decide
  have hsize : (intSize Int64.minValue).integer? = some (-9223372036854775808) := by decide
  have hshort : (int16 Int16.minValue).integer? = some (-32768) := by decide
  have htext : (int64 Int64.minValue).text = "-9223372036854775808" := by decide +kernel
  obtain ⟨hsigned, -, hsame, -⟩ := text_decodes
  have hnumeral := hsigned _ _ hlong
  rw [htext] at hnumeral
  refine ⟨hlong, htext, hnumeral, (hsame _ _ _ _ hsize hlong).mpr rfl, ?_, by decide +kernel⟩
  intro h
  exact absurd ((hsame _ _ _ _ hshort hlong).mp h) (by decide)

end ShaderDiagnostics.Primitive
