import ShaderDiagnostics.Swizzle.WriteMask
import ShaderDiagnostics.Numeral
/-!
# Swizzles

A swizzle is a packed mask with its kind and its number of slots. It is built from selectors
(`Swizzle.ofSelectors`) and gives them back (`Swizzle.selectors`). This module also holds the
reasons for which a swizzle is refused, by selectors or by text, and how each reads in a message.
-/

namespace ShaderDiagnostics

/-- A packed mask together with what is needed to read it. -/
structure Swizzle where
  /-- The selectors, slot 0 in the lowest bits. -/
  mask : UInt32
  /-- The number of slots. -/
  length : Nat
  /-- What the slots select. -/
  kind : Swizzle.Kind
  deriving DecidableEq

namespace Swizzle

/-! ## Refusals -/

/-- Why selectors or a text make no swizzle. -/
inductive Error where
  /-- Nothing is selected. -/
  | empty
  /-- More than `maxSlots` components are selected. -/
  | tooManyComponents (count : Nat)
  /-- A character names no vector component. -/
  | invalidComponent (component : Char)
  /-- Two ways of naming components stand in one swizzle. -/
  | mixedSets
  /-- A cell of a matrix swizzle has neither form. -/
  | malformedCell (cell : String)
  /-- A selector has no component of its kind. -/
  | selectorOutOfRange (selector : UInt8) (kind : Kind)
  deriving DecidableEq

/-- The message of a refusal. -/
def Error.message : Error → String
  | empty => "empty swizzle"
  | tooManyComponents count =>
    "swizzle selects " ++ Numeral.decimal count ++ " components, at most " ++
      Numeral.decimal maxSlots ++ " are allowed"
  | invalidComponent component =>
    "invalid swizzle component `" ++ String.singleton component ++ "`"
  | mixedSets => "swizzle mixes component sets"
  | malformedCell cell => "malformed matrix swizzle cell `" ++ cell ++ "`"
  | selectorOutOfRange selector kind =>
    "selector " ++ Numeral.decimal selector.toNat ++ " is out of range for a " ++ kind.name ++
      " swizzle"

/-! ## Packing -/

/-- The mask that holds the given selectors from a slot on. -/
def pack (kind : Kind) : Nat → List UInt8 → UInt32
  | _, [] => 0
  | slot, selector :: rest =>
    (selector.toUInt32 <<< kind.slotShift slot) ||| pack kind (slot + 1) rest

/-- The swizzle of the given selectors, slot 0 first. -/
def ofSelectors (kind : Kind) (selectors : List UInt8) : Except Error Swizzle :=
  if selectors = [] then .error .empty
  else if maxSlots < selectors.length then .error (.tooManyComponents selectors.length)
  else
    match selectors.find? (fun selector => decide (kind.selectorMask < selector.toUInt32)) with
    | some selector => .error (.selectorOutOfRange selector kind)
    | none => .ok ⟨pack kind 0 selectors, selectors.length, kind⟩

/-- No selectors make no swizzle. -/
theorem ofSelectors_nil (kind : Kind) : ofSelectors kind [] = .error .empty :=
  rfl

/-! ## Reading a swizzle -/

/-- The selectors of a swizzle, slot 0 first. -/
def selectors (s : Swizzle) : List UInt32 :=
  (List.range s.length).map (s.kind.selectorAt s.mask)

/-- Whether a swizzle has no slots. -/
def isEmpty (s : Swizzle) : Bool :=
  s.length == 0

/-- Whether a swizzle may be assigned through. -/
def isAssignable (s : Swizzle) : Bool :=
  isWriteMask s.kind s.mask s.length

theorem length_selectors (s : Swizzle) : s.selectors.length = s.length := by
  simp [selectors]

end Swizzle

end ShaderDiagnostics
