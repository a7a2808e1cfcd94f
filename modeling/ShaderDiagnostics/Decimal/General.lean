import ShaderDiagnostics.Binary
import ShaderDiagnostics.Decimal.Rounding
/-!
# General decimal notation

A number is written with a budget of significant digits. Where the exponent of the rounded number
lies from -4 up to below the budget, the notation is positional, otherwise scientific. Zeros at the
end of the fraction are left out, and so is a point with nothing behind it.

The positional text rounds the number itself to the places that the budget leaves after the point;
the scientific one shows the digits from which the exponent was taken.
-/

namespace ShaderDiagnostics.Decimal

/-! ## Fractions -/

/-- A text without the occurrences of a character at its end. -/
def trimEnd (c : Char) (text : List Char) : List Char :=
  (text.reverse.dropWhile (· == c)).reverse

/-- A numeral without the zeros at the end of its fraction, and without a point that nothing
follows. A numeral that has no point stays as it is. -/
def trimFraction (text : List Char) : List Char :=
  if text.contains '.' then trimEnd '.' (trimEnd '0' text) else text

/-- The text of `n / 10 ^ places` with all its places. -/
def fixedText (places n : Nat) : List Char :=
  Numeral.decimalDigits (n / Numeral.powerOfTen places) ++
    if places = 0 then [] else '.' :: Numeral.paddedDigits places (n % Numeral.powerOfTen places)

/-! ## Exponents -/

/-- The text of an exponent: always with a sign, and with two digits at least. -/
def exponentText (e : Int) : List Char :=
  'e' :: (if e < 0 then '-' else '+') :: Numeral.paddedDigits 2 e.natAbs

/-! ## Numbers -/

/-- Whether a decimal of `precision` significant digits with the given exponent is written
positionally. -/
def isPositional (precision : Nat) (exponent : Int) : Bool :=
  -4 ≤ exponent && exponent < precision

/-- The text of a non-negative rational with `precision` significant digits, of which there is at
least one. -/
def magnitudeText (precision : Nat) (x : Rat) : List Char :=
  let precision := max precision 1
  let rounded := toSignificant precision x
  if isPositional precision rounded.exponent then
    let places := ((precision : Int) - 1 - rounded.exponent).toNat
    trimFraction (fixedText places (roundHalfEven (x * 10 ^ places)))
  else
    trimFraction (fixedText (precision - 1) rounded.digits) ++ exponentText rounded.exponent

/-- The sign in front of a number: `-` for a set sign bit, even of a zero, and nothing otherwise. -/
def signText (negative : Bool) : List Char :=
  if negative then ['-'] else []

/-- The text of a number with `precision` significant digits. -/
def numberText (precision : Nat) : Binary.Number → List Char
  | .nan negative => signText negative ++ ['n', 'a', 'n']
  | .infinity negative => signText negative ++ ['i', 'n', 'f']
  | .finite negative significand exponent =>
    signText negative ++ magnitudeText precision (Binary.Number.magnitude significand exponent)

end ShaderDiagnostics.Decimal
