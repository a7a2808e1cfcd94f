import ShaderDiagnostics.Word
/-!
# Packed selectors

A swizzle mask packs up to four selectors into a word, slot 0 in the lowest bits. A vector selector
takes two bits, a matrix selector four. The mask itself does not say which: its kind travels
beside it. `Swizzle.Kind.selectorAt` reads the selector of any slot; a slot beyond the word reads
as selector 0.
-/

namespace ShaderDiagnostics

/-- What the slots of a mask select: components of a vector or cells of a matrix. -/
inductive Swizzle.Kind where
  | vector
  | matrix
  deriving DecidableEq

namespace Swizzle

/-- The number of slots a swizzle may have. -/
def maxSlots : Nat := 4

namespace Kind

/-! ## Widths -/

/-- The bits of one slot. -/
def bitsPerSlot : Kind → UInt32
  | vector => 2
  | matrix => 4

/-- The bits of one selector, in the lowest slot. -/
def selectorMask : Kind → UInt32
  | vector => 0x3
  | matrix => 0xF

/-- The bits of all four slots. -/
def packedMask : Kind → UInt32
  | vector => 0xFF
  | matrix => 0xFFFF

/-- The name of a kind in a message. -/
def name : Kind → String
  | vector => "Vector"
  | matrix => "Matrix"

/-! ## Slots -/

/-- The bit at which a slot starts. A slot so far out that its start is no word starts at the
largest word, which lies beyond every mask as well. -/
def slotShift (kind : Kind) (slot : Nat) : UInt32 :=
  match Word.ofNat? slot with
  | some s => Word.mulSaturating s kind.bitsPerSlot
  | none => Word.top

/-- The start of a slot whose index is no word is the largest word. -/
theorem slotShift_of_le (kind : Kind) {slot : Nat} (h : UInt32.size ≤ slot) :
    kind.slotShift slot = Word.top := by
  rw [slotShift, Word.ofNat?_of_le h]

/-- The selector in a slot of a mask; 0 beyond the end of the word. -/
def selectorAt (kind : Kind) (mask : UInt32) (slot : Nat) : UInt32 :=
  (Word.shiftRight? mask (kind.slotShift slot)).getD 0 &&& kind.selectorMask

/-- A slot whose index is no word reads as 0. -/
theorem selectorAt_of_le (kind : Kind) (mask : UInt32) {slot : Nat} (h : UInt32.size ≤ slot) :
    kind.selectorAt mask slot = 0 := by
  simp [selectorAt, slotShift_of_le kind h, Word.shiftRight?, Word.top]

end Kind

end Swizzle

end ShaderDiagnostics
