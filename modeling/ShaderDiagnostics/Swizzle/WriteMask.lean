import ShaderDiagnostics.Swizzle.Kind
/-!
# Write masks

Assigning through a swizzle is well formed when no component is targeted twice: `v.xy = …` is fine,
`v.xx = …` is not. The scan walks the slots in order and keeps the set of selectors seen as bits of
a 16-bit word; it ends at the first slot that repeats one. On its way it notes the slots that it looks
at and the shifts that it makes (`Swizzle.Scan`). The check of a mask is what the scan finds.

The mask is narrowed to its four slots first, so every slot past them reads as selector 0.
-/

namespace ShaderDiagnostics.Swizzle

/-! ## Notes -/

/-- A shift of a word by some bits. -/
structure Shift where
  /-- The width of the word. -/
  width : Nat
  distance : Nat

/-- What a scan finds, with the slots that it looks at and the shifts that it makes on its way. -/
structure Scan where
  firstRepeat : Option Nat
  slots : List Nat
  shifts : List Shift

/-- The shift that reads a selector. A slot that starts beyond the mask is read without one. -/
def Kind.readingShifts (kind : Kind) (slot : Nat) : List Shift :=
  if kind.slotShift slot < 32 then [⟨32, (kind.slotShift slot).toNat⟩] else []

/-- The shifts that look a slot up among the selectors seen. -/
def Kind.shiftsAt (kind : Kind) (mask : UInt32) (slot : Nat) : List Shift :=
  kind.readingShifts slot ++ [⟨16, (kind.selectorAt mask slot).toNat⟩]

/-! ## The scan -/

/-- The bit of the selector in a slot. -/
def Kind.flagAt (kind : Kind) (mask : UInt32) (slot : Nat) : UInt16 :=
  1 <<< (kind.selectorAt mask slot).toUInt16

/-- Look for the first of `count` slots, from `slot` on, whose selector is among those `seen` or
repeats that of an earlier one. -/
def scanFrom (kind : Kind) (mask : UInt32) : UInt16 → Nat → Nat → Scan
  | _, _, 0 => ⟨none, [], []⟩
  | seen, slot, count + 1 =>
    let flag := kind.flagAt mask slot
    if seen &&& flag ≠ 0 then ⟨some slot, [slot], kind.shiftsAt mask slot⟩
    else
      let rest := scanFrom kind mask (seen ||| flag) (slot + 1) count
      ⟨rest.firstRepeat, slot :: rest.slots, kind.shiftsAt mask slot ++ rest.shifts⟩

variable {kind : Kind} {mask : UInt32} {seen : UInt16} {slot : Nat}

/-- A repeat ends the scan, however many slots are left. -/
theorem scanFrom_of_seen (h : seen &&& kind.flagAt mask slot ≠ 0) (count : Nat) :
    scanFrom kind mask seen slot (count + 1) = ⟨some slot, [slot], kind.shiftsAt mask slot⟩ :=
  if_pos h

/-- A new selector is added to those seen, and the scan goes on. -/
theorem scanFrom_of_new (h : ¬ seen &&& kind.flagAt mask slot ≠ 0) (count : Nat) :
    scanFrom kind mask seen slot (count + 1) =
      let rest := scanFrom kind mask (seen ||| kind.flagAt mask slot) (slot + 1) count
      ⟨rest.firstRepeat, slot :: rest.slots, kind.shiftsAt mask slot ++ rest.shifts⟩ :=
  if_neg h

/-! ## The check -/

/-- The scan of a write mask with the given number of slots. -/
def scan (kind : Kind) (mask : UInt32) (count : Nat) : Scan :=
  scanFrom kind (mask &&& kind.packedMask) 0 0 count

/-- The first of the `count` slots of a mask that targets a component a second time. -/
def firstRepeat? (kind : Kind) (mask : UInt32) (count : Nat) : Option Nat :=
  (scan kind mask count).firstRepeat

/-- Whether a mask of `count` slots targets each component at most once. -/
def isWriteMask (kind : Kind) (mask : UInt32) (count : Nat) : Bool :=
  (firstRepeat? kind mask count).isNone

/-- No slots target nothing twice. -/
theorem isWriteMask_zero (kind : Kind) (mask : UInt32) : isWriteMask kind mask 0 = true :=
  rfl

end ShaderDiagnostics.Swizzle
