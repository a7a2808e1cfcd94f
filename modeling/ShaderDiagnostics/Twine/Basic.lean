import ShaderDiagnostics.Primitive
import ShaderDiagnostics.Text.Writer
/-!
# Twines

A twine is a message in the making: a tree whose leaves are texts and primitive values. Building
one formats nothing and joins no texts. `Twine.render` does that when the message is needed: it gives
the leaves to a writer of text, from left to right, up to the first that is refused
(`Twine.render_eq_forM`).

Joining with the empty twine gives the other side back, so that no node is spent on nothing. A leaf
with an empty text is not the empty twine: it stays a leaf.
-/

namespace ShaderDiagnostics

/-- A message composed of texts and values. -/
inductive Twine where
  | empty
  /-- A text that belongs to someone else. -/
  | borrowed (text : String)
  /-- A text that belongs to the twine. -/
  | owned (text : String)
  | value (primitive : Primitive)
  /-- Two twines, one behind the other. -/
  | node (left right : Twine)

namespace Twine

instance : Inhabited Twine := ⟨empty⟩

/-! ## Equality -/

/-- Equality of twines: the same tree with equal leaves. A text of one's own never equals someone
else's, and a value that is not a number not even itself. -/
def equals : Twine → Twine → Bool
  | empty, empty => true
  | borrowed text, borrowed text' => text == text'
  | owned text, owned text' => text == text'
  | value primitive, value primitive' => primitive == primitive'
  | node left right, node left' right' => left.equals left' && right.equals right'
  | _, _ => false

instance : BEq Twine := ⟨equals⟩

/-! ## Building -/

/-- One twine behind another. -/
def concat : Twine → Twine → Twine
  | empty, right => right
  | left, empty => left
  | left, right => node left right

instance : Append Twine := ⟨concat⟩

theorem empty_append (t : Twine) : empty ++ t = t :=
  rfl

theorem append_empty (t : Twine) : t ++ empty = t := by
  cases t <;> rfl

/-- A row of twines, one behind the other. -/
def join (parts : List Twine) : Twine :=
  parts.foldl (· ++ ·) empty

/-! ## Shape -/

/-- Whether a twine is the empty one. -/
def isEmpty : Twine → Bool
  | empty => true
  | _ => false

/-- The number of nodes and leaves. -/
def size : Twine → Nat
  | node left right => left.size + right.size + 1
  | _ => 1

/-- The length of the longest way from the top to a leaf. -/
def depth : Twine → Nat
  | node left right => max left.depth right.depth + 1
  | _ => 1

/-! ## Rendering -/

variable {ω : Type}

/-- Give the leaves of a twine to a writer of text, the left side of a node before the right one. -/
def render (out : TextWriter ω) : Twine → Rendering ω Unit
  | empty => pure ()
  | borrowed text => out.write text
  | owned text => out.write text
  | value primitive => out.write primitive.text
  | node left right => do
    left.render out
    right.render out

/-- The text of a twine, which is rendered to a string for that. -/
def text (t : Twine) : String :=
  ((t.render .string).runFrom "").2

/-! ## Pieces -/

/-- The texts of the leaves, from left to right; the empty twine has none. -/
def pieces : Twine → List String
  | empty => []
  | borrowed text => [text]
  | owned text => [text]
  | value primitive => [primitive.text]
  | node left right => left.pieces ++ right.pieces

/-- Joining two twines joins their pieces, also where a side is dropped for being empty. -/
theorem pieces_append (a b : Twine) : (a ++ b).pieces = a.pieces ++ b.pieces := by
  show (concat a b).pieces = _
  cases a <;> cases b <;> simp [concat, pieces]

/-- A writer is given the pieces in order, and nothing after a piece that it refuses. -/
theorem render_eq_forM (out : TextWriter ω) (t : Twine) : t.render out = forM t.pieces out.write := by
  induction t with
  | empty => rfl
  | borrowed text => simp [render, pieces]
  | owned text => simp [render, pieces]
  | value primitive => simp [render, pieces]
  | node left right ihl ihr => rw [render, ihl, ihr, pieces, List.forM_append]

/-- A string refuses no piece, so it takes them all up. -/
theorem runFrom_render_string (t : Twine) :
    (t.render .string).runFrom "" = (.ok (), String.join t.pieces) := by
  rw [render_eq_forM]
  exact TextWriter.runFrom_accepting _ t.pieces ""

/-- The text of a twine joins its pieces. -/
theorem text_eq_join (t : Twine) : t.text = String.join t.pieces := by
  rw [text, runFrom_render_string]

end Twine

end ShaderDiagnostics
