import ShaderDiagnostics.Decimal.General
/-!
# Primitive values

The values that a message may hold beside text: integers of every width, floating-point numbers,
truth values and addresses. Each has one text (`Primitive.text`), which depends on nothing but the
value. Two primitives are equal if they are of one type and their values are equal; for
floating-point numbers that is equality of numbers, not of words.
-/

namespace ShaderDiagnostics

/-- A primitive value. -/
inductive Primitive where
  | int16 (value : Int16)
  | uint16 (value : UInt16)
  | int32 (value : Int32)
  | uint32 (value : UInt32)
  | int64 (value : Int64)
  | uint64 (value : UInt64)
  /-- A signed integer of the size of an address. -/
  | intSize (value : Int64)
  /-- An unsigned integer of the size of an address. -/
  | uintSize (value : UInt64)
  /-- A floating-point number in the 32-bit format, given by its word. -/
  | float32 (word : UInt32)
  /-- A floating-point number in the 64-bit format, given by its word. -/
  | float64 (word : UInt64)
  | bool (value : Bool)
  | address (value : UInt64)

namespace Primitive

/-! ## Text -/

/-- The significant digits of a 32-bit floating-point number in a message. -/
def singleDigits : Nat := 6

/-- The significant digits of a 64-bit floating-point number in a message. -/
def doubleDigits : Nat := 18

/-- The number of a 32-bit floating-point word. -/
def single (word : UInt32) : Binary.Number :=
  Binary.single.decode word.toNat

/-- The number of a 64-bit floating-point word. -/
def double (word : UInt64) : Binary.Number :=
  Binary.double.decode word.toNat

/-- The text of an address: hexadecimal behind `0x`, and a word of its own for the null address. -/
def addressText (value : UInt64) : String :=
  if value = 0 then "(nil)" else "0x" ++ String.ofList (Numeral.hexDigits value.toNat)

/-- The text of a primitive value. -/
def text : Primitive → String
  | int16 v => Numeral.signed v.toInt
  | uint16 v => Numeral.decimal v.toNat
  | int32 v => Numeral.signed v.toInt
  | uint32 v => Numeral.decimal v.toNat
  | int64 v => Numeral.signed v.toInt
  | uint64 v => Numeral.decimal v.toNat
  | intSize v => Numeral.signed v.toInt
  | uintSize v => Numeral.decimal v.toNat
  | float32 w => String.ofList (Decimal.numberText singleDigits (single w))
  | float64 w => String.ofList (Decimal.numberText doubleDigits (double w))
  | bool v => if v then "true" else "false"
  | address v => addressText v

/-! ## Equality -/

/-- Equality of primitive values. -/
def equals : Primitive → Primitive → Bool
  | int16 v, int16 v' => v == v'
  | uint16 v, uint16 v' => v == v'
  | int32 v, int32 v' => v == v'
  | uint32 v, uint32 v' => v == v'
  | int64 v, int64 v' => v == v'
  | uint64 v, uint64 v' => v == v'
  | intSize v, intSize v' => v == v'
  | uintSize v, uintSize v' => v == v'
  | float32 w, float32 w' => (single w).equals (single w')
  | float64 w, float64 w' => (double w).equals (double w')
  | bool v, bool v' => v == v'
  | address v, address v' => v == v'
  | _, _ => false

instance : BEq Primitive := ⟨equals⟩

/-- Whether a primitive value is a floating-point number that is not a number. -/
def isNaN : Primitive → Bool
  | float32 w => (single w).isNaN
  | float64 w => (double w).isNaN
  | _ => false

/-- A value equals itself unless it is not a number. -/
theorem beq_self (p : Primitive) : (p == p) = !p.isNaN := by
  cases p <;> simp [BEq.beq, equals, isNaN, Binary.Number.equals_self]

end Primitive

end ShaderDiagnostics
