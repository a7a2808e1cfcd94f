import Mathlib
import ShaderDiagnostics.Swizzle.Kind
/-!
# Slots for selectors

A reader of a swizzle has four slots for the selectors that it reads. A store or a look beyond the
last slot fails (`Slots.store?`, `Slots.front?`). Slots that are filled from the front show what was
stored, as long as it is no more than four selectors (`Slots.front?_fill`).
-/

namespace ShaderDiagnostics.Swizzle

/-- The slots for the selectors that are read, one for each component that a swizzle may have. -/
abbrev Slots :=
  Vector UInt8 maxSlots

namespace Slots

/-! ## Stores and looks -/

/-- Store a selector in a slot. `none` is a store beyond the last slot. -/
def store? (slots : Slots) (i : ℕ) (b : UInt8) : Option Slots :=
  if h : i < maxSlots then some (slots.set i b h) else none

/-- The selectors in the first `count` slots. `none` is a look beyond the last slot. -/
def front? (slots : Slots) (count : ℕ) : Option (List UInt8) :=
  if count ≤ maxSlots then some (slots.toList.take count) else none

/-- Slots with selectors stored from a slot on; what is beyond the last slot is lost. -/
def fill (slots : Slots) : ℕ → List UInt8 → Slots
  | _, [] => slots
  | i, b :: rest => fill (slots.setIfInBounds i b) (i + 1) rest

/-- A store in one of the slots succeeds. -/
theorem store?_of_lt (slots : Slots) {i : ℕ} (h : i < maxSlots) (b : UInt8) :
    slots.store? i b = some (slots.setIfInBounds i b) := by
  rw [store?, dif_pos h]
  simp [Vector.setIfInBounds, Vector.set, Array.setIfInBounds, h]

/-! ## Filled slots -/

/-- Filled slots hold what is stored, behind what was there before. -/
theorem take_toList_fill (slots : Slots) {i : ℕ} {selectors : List UInt8}
    (h : i + selectors.length ≤ maxSlots) :
    (slots.fill i selectors).toList.take (i + selectors.length) =
      slots.toList.take i ++ selectors := by
  induction selectors generalizing slots i with
  | nil => simp [fill]
  | cons b rest ih =>
      rw [List.length_cons] at h
      have hlt : i < (slots.toList.set i b).length := by
        rw [List.length_set, Vector.length_toList]
        omega
      rw [fill, List.length_cons, show i + (rest.length + 1) = i + 1 + rest.length by omega,
        ih _ (by omega), Vector.toList_setIfInBounds, List.take_succ_eq_append_getElem hlt,
        List.take_set_of_le (Nat.le_refl i), List.getElem_set_self, List.append_assoc]
      rfl

/-- Slots that are filled from the first one on show what was stored, and nothing of what was there
before. -/
theorem front?_fill (slots : Slots) {selectors : List UInt8} (h : selectors.length ≤ maxSlots) :
    (slots.fill 0 selectors).front? selectors.length = some selectors := by
  have hroom : 0 + selectors.length ≤ maxSlots := by omega
  have htake := slots.take_toList_fill hroom
  rw [Nat.zero_add, List.take_zero, List.nil_append] at htake
  rw [front?, if_pos h, htake]

end Slots

end ShaderDiagnostics.Swizzle
