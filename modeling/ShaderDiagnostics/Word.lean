/-!
# Words that stop at their limit

Arithmetic on 32-bit words for quantities that may outgrow them: a natural number that does not
fit is refused or clamped, a product that does not fit is the largest word, and a shift by the
whole width or more has no result. Nothing here wraps around.
-/

namespace ShaderDiagnostics.Word

/-- The largest word. -/
def top : UInt32 := 0xFFFFFFFF

/-! ## Narrowing -/

/-- `n` as a word, if it fits. -/
def ofNat? (n : Nat) : Option UInt32 :=
  if n < UInt32.size then some (UInt32.ofNat n) else none

theorem ofNat?_of_lt {n : Nat} (h : n < UInt32.size) : ofNat? n = some (UInt32.ofNat n) :=
  if_pos h

theorem ofNat?_of_le {n : Nat} (h : UInt32.size ≤ n) : ofNat? n = none :=
  if_neg (Nat.not_lt.2 h)

/-- `n` as a word, or the largest word where it does not fit. -/
def clamp (n : Nat) : UInt32 :=
  (ofNat? n).getD top

theorem clamp_of_lt {n : Nat} (h : n < UInt32.size) : clamp n = UInt32.ofNat n := by
  rw [clamp, ofNat?_of_lt h]
  rfl

/-! ## Products and shifts -/

/-- The product of two words, or the largest word where it does not fit. -/
def mulSaturating (a b : UInt32) : UInt32 :=
  if a.toNat * b.toNat < UInt32.size then a * b else top

/-- `w` shifted right by `n` bits; nothing if `n` reaches the width of a word. -/
def shiftRight? (w n : UInt32) : Option UInt32 :=
  if n < 32 then some (w >>> n) else none

end ShaderDiagnostics.Word
