/-!
# Positional numerals

Numbers as digit characters, most significant digit first and without superfluous zeros.
`ofDecimalDigits_decimalDigits` says that the decimal digits read back as the number, so equal
texts mean equal numbers (`decimal_inj`).
-/

namespace ShaderDiagnostics.Numeral

/-! ## Digits -/

/-- The decimal digits of `n`; zero is the single digit `0`. -/
def decimalDigits (n : Nat) : List Char :=
  Nat.toDigits 10 n

/-- The hexadecimal digits of `n`, letters in lower case. -/
def hexDigits (n : Nat) : List Char :=
  Nat.toDigits 16 n

/-- The decimal digits of `n` with zeros in front up to `width` digits; a longer number keeps all
its digits. -/
def paddedDigits (width n : Nat) : List Char :=
  List.replicate (width - (decimalDigits n).length) '0' ++ decimalDigits n

/-- The number that a row of decimal digits stands for. -/
def ofDecimalDigits (digits : List Char) : Nat :=
  Nat.ofDigitChars 10 digits 0

/-- The digits of a number stand for it. -/
theorem ofDecimalDigits_decimalDigits (n : Nat) : ofDecimalDigits (decimalDigits n) = n :=
  Nat.ofDigitChars_ten_toDigits

theorem decimalDigits_ne_nil (n : Nat) : decimalDigits n ≠ [] :=
  Nat.toDigits_ne_nil

/-- A numeral has no characters but digits. -/
theorem isDigit_of_mem_decimalDigits {n : Nat} {c : Char} (h : c ∈ decimalDigits n) :
    c.isDigit = true :=
  Nat.isDigit_of_mem_toDigits (by omega) (by omega) h

/-- Zeros in front do not change what digits stand for. -/
theorem ofDecimalDigits_paddedDigits (width n : Nat) :
    ofDecimalDigits (paddedDigits width n) = n := by
  unfold ofDecimalDigits paddedDigits decimalDigits
  rw [Nat.ofDigitChars_append, Nat.ofDigitChars_replicate_zero, Nat.mul_zero]
  exact Nat.ofDigitChars_ten_toDigits

/-! ## Powers of ten -/

/-- The number that is written as 1 with `places` zeros behind it. -/
def powerOfTen (places : Nat) : Nat :=
  Nat.pow 10 places

/-! ## Texts -/

/-- The decimal text of a natural number. -/
def decimal (n : Nat) : String :=
  String.ofList (decimalDigits n)

/-- The decimal text of an integer, with `-` in front of a negative one. -/
def signed (n : Int) : String :=
  if n < 0 then "-" ++ decimal n.natAbs else decimal n.natAbs

/-- Different numbers have different numerals. -/
theorem decimal_inj {m n : Nat} : decimal m = decimal n ↔ m = n := by
  constructor
  · intro h
    have hd : decimalDigits m = decimalDigits n := String.ofList_injective h
    rw [← ofDecimalDigits_decimalDigits m, hd, ofDecimalDigits_decimalDigits]
  · rintro rfl
    rfl

end ShaderDiagnostics.Numeral
