import ShaderDiagnostics.Swizzle.Basic
/-!
# Vector swizzles in text

A vector swizzle is one to four letters, all from `xyzw` or all from `rgba`. `Swizzle.ofVectorText`
reads one. The length is checked before any letter is looked at, and it counts characters, not
bytes; then the letters are checked from left to right.
-/

namespace ShaderDiagnostics.Swizzle

/-! ## Component sets -/

/-- The two sets of component letters. -/
inductive LetterSet where
  /-- `x`, `y`, `z` and `w`. -/
  | position
  /-- `r`, `g`, `b` and `a`. -/
  | color
  deriving DecidableEq

/-- The letters of a set, the letter of selector 0 first. -/
def LetterSet.letters : LetterSet → List Char
  | position => ['x', 'y', 'z', 'w']
  | color => ['r', 'g', 'b', 'a']

/-- The selector of a letter in a set. -/
def LetterSet.selector? (set : LetterSet) (c : Char) : Option UInt8 :=
  (set.letters.idxOf? c).map UInt8.ofNat

/-- The set and the selector that a character stands for. -/
def vectorComponent? (c : Char) : Option (LetterSet × UInt8) :=
  [LetterSet.position, LetterSet.color].findSome? fun set =>
    (set.selector? c).map fun selector => (set, selector)

/-! ## Reading -/

/-- The selectors of a row of letters, all of which must belong to the `active` set, once there is
one. -/
def readLetters : Option LetterSet → List Char → Except Error (List UInt8)
  | _, [] => .ok []
  | active, c :: rest =>
    match vectorComponent? c with
    | none => .error (.invalidComponent c)
    | some (set, selector) =>
      if active.any (· != set) then .error .mixedSets
      else (readLetters (some set) rest).map (selector :: ·)

/-- The vector swizzle that a row of characters spells. -/
def ofLetters (letters : List Char) : Except Error Swizzle :=
  if letters = [] then .error .empty
  else if maxSlots < letters.length then .error (.tooManyComponents letters.length)
  else (readLetters none letters).bind (ofSelectors .vector)

/-- The vector swizzle that a text spells, such as `xyz` or `rgba`. -/
def ofVectorText (text : String) : Except Error Swizzle :=
  ofLetters text.toList

end ShaderDiagnostics.Swizzle
