import ShaderDiagnostics.Numeral
/-!
# Decimal rounding

Non-negative rationals are rounded to decimals exactly: to a whole number (`roundHalfEven`), and to
a number of significant digits (`toSignificant`). A value halfway between two candidates goes to
the even one. Rounding up may reach the next power of ten; the result then starts a new decade.
-/

namespace ShaderDiagnostics.Decimal

/-! ## Whole numbers -/

/-- The whole number nearest to a non-negative rational; halfway between two, the even one. -/
def roundHalfEven (x : Rat) : Nat :=
  let whole := x.floor.toNat
  let rest := x - x.floor
  if rest < 1 / 2 then whole
  else if 1 / 2 < rest then whole + 1
  else if whole % 2 = 0 then whole
  else whole + 1

/-! ## Decades -/

/-- The number of decimal digits of a natural number; zero has one. -/
def digitCount (n : Nat) : Nat :=
  (Numeral.decimalDigits n).length

/-- The exponent of the decade of a positive rational: the `e` with `10 ^ e ≤ x < 10 ^ (e + 1)`.
From 1 on, the digits of the whole part tell it; below 1, `10 ^ k` reaches `1 / x` as soon as it
exceeds every whole number below `1 / x`. -/
def decade (x : Rat) : Int :=
  if 1 ≤ x then (digitCount x.floor.toNat : Int) - 1
  else -(digitCount (x⁻¹.ceil.toNat - 1) : Int)

/-! ## Significant digits -/

/-- A decimal of a fixed number of significant digits, read as a whole number, with the exponent of
its first digit. -/
structure Significant where
  digits : Nat
  exponent : Int
  deriving DecidableEq

/-- Round a non-negative rational to `precision` significant digits. Zero has the exponent 0. -/
def toSignificant (precision : Nat) (x : Rat) : Significant :=
  if x = 0 then ⟨0, 0⟩
  else
    let e := decade x
    let digits := roundHalfEven (x * 10 ^ ((precision : Int) - 1 - e))
    if digits = Numeral.powerOfTen precision then ⟨Numeral.powerOfTen (precision - 1), e + 1⟩
    else ⟨digits, e⟩

/-- The number that a decimal of `precision` significant digits stands for. -/
def Significant.value (precision : Nat) (s : Significant) : Rat :=
  s.digits * 10 ^ (s.exponent - ((precision : Int) - 1))

end ShaderDiagnostics.Decimal
