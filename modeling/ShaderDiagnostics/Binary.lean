/-!
# Binary floating-point numbers

A floating-point word has a sign bit, an exponent field and a fraction field, most significant
first. `Binary.Format.decode` reads a word of any such format as a number: a NaN or an infinity
with its sign, or a finite number `± significand · 2 ^ exponent`, exactly. Zero keeps its sign.
-/

namespace ShaderDiagnostics.Binary

/-! ## Numbers -/

/-- What a floating-point word stands for. -/
inductive Number where
  | nan (negative : Bool)
  | infinity (negative : Bool)
  /-- The number `significand · 2 ^ exponent`, negated if `negative`. -/
  | finite (negative : Bool) (significand : Nat) (exponent : Int)
  deriving DecidableEq

namespace Number

/-- The sign bit of a number. -/
def isNegative : Number → Bool
  | nan negative => negative
  | infinity negative => negative
  | finite negative _ _ => negative

/-- Whether a number is not a number. -/
def isNaN : Number → Bool
  | nan _ => true
  | _ => false

/-- The absolute value of a finite number given by its significand and exponent. -/
def magnitude (significand : Nat) (exponent : Int) : Rat :=
  significand * 2 ^ exponent

/-- Equality of numbers of one format: a NaN equals nothing, and the two zeros are equal. -/
def equals : Number → Number → Bool
  | infinity negative, infinity negative' => negative == negative'
  | finite negative significand exponent, finite negative' significand' exponent' =>
    (significand == 0 && significand' == 0) ||
      (negative == negative' && significand == significand' && exponent == exponent')
  | _, _ => false

/-- A number equals itself unless it is not a number. -/
theorem equals_self (x : Number) : x.equals x = !x.isNaN := by
  cases x <;> simp [equals, isNaN]

end Number

/-! ## Formats -/

/-- The widths of the two fields below the sign bit. -/
structure Format where
  exponentBits : Nat
  fractionBits : Nat

/-- The 32-bit format. -/
def single : Format := ⟨8, 23⟩

/-- The 64-bit format. -/
def double : Format := ⟨11, 52⟩

namespace Format

/-- What is taken off the exponent field of a number with a significand below 2. -/
def bias (f : Format) : Nat :=
  (1 <<< (f.exponentBits - 1)) - 1

/-- The highest exponent field. -/
def topField (f : Format) : Nat :=
  (1 <<< f.exponentBits) - 1

/-- The fraction field of a word. -/
def fraction (f : Format) (word : Nat) : Nat :=
  word % (1 <<< f.fractionBits)

/-- The exponent field of a word. -/
def exponentField (f : Format) (word : Nat) : Nat :=
  (word >>> f.fractionBits) % (1 <<< f.exponentBits)

/-- The sign bit of a word. -/
def signBit (f : Format) (word : Nat) : Bool :=
  word.testBit (f.fractionBits + f.exponentBits)

/-- The number that a word stands for. The highest exponent field marks infinities and NaNs, the
lowest one the numbers without the implicit leading bit. -/
def decode (f : Format) (word : Nat) : Number :=
  let negative := f.signBit word
  let fraction := f.fraction word
  let field := f.exponentField word
  if field = f.topField then
    if fraction = 0 then .infinity negative else .nan negative
  else if field = 0 then
    .finite negative fraction (1 - (f.bias : Int) - f.fractionBits)
  else
    .finite negative ((1 <<< f.fractionBits) + fraction) ((field : Int) - f.bias - f.fractionBits)

end Format

end ShaderDiagnostics.Binary
