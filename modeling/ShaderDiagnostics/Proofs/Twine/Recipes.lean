import Mathlib
import ShaderDiagnostics.Proofs.Twine.Leaves
/-!
# Twines that were put together

A twine is put together from texts and values without naming a node (`Recipe`). Joining then leaves
the empty twine out of it, so that it stands below no node (`Recipe.not_below_empty`), and a twine of
`k` leaves has `2 * k - 1` nodes and leaves in all (`size_add_one`). What the twine writes depends on
the leaves of the recipe and on nothing else: neither on how they are grouped nor on empty twines
among them (`composes_recipe`).
-/

namespace ShaderDiagnostics.Twine

/-! ## Below a node -/

/-- A twine stands somewhere below a node of another one. -/
inductive Below (t : Twine) : Twine → Prop where
  | left (right : Twine) : Below t (node t right)
  | right (left : Twine) : Below t (node left t)
  | inLeft {left : Twine} (right : Twine) (h : Below t left) : Below t (node left right)
  | inRight (left : Twine) {right : Twine} (h : Below t right) : Below t (node left right)

variable {t a b : Twine}

/-- What stands below a node is one of its sides or stands below one. -/
theorem below_node_iff : Below t (node a b) ↔ t = a ∨ t = b ∨ Below t a ∨ Below t b := by
  constructor
  · intro h
    cases h with
    | left => exact .inl rfl
    | right => exact .inr (.inl rfl)
    | inLeft _ h => exact .inr (.inr (.inl h))
    | inRight _ h => exact .inr (.inr (.inr h))
  · rintro (rfl | rfl | h | h)
    · exact .left b
    · exact .right a
    · exact .inLeft b h
    · exact .inRight a h

/-- Two twines are joined by a node unless one of them is empty. -/
theorem append_eq_node (ha : a ≠ empty) (hb : b ≠ empty) : a ++ b = node a b := by
  show concat a b = node a b
  unfold concat
  split
  · exact absurd rfl ha
  · exact absurd rfl hb
  · rfl

/-- If the empty twine stands below no node of either side, it stands below none of the two joined. -/
theorem not_below_append (ha : ¬ Below empty a) (hb : ¬ Below empty b) :
    ¬ Below empty (a ++ b) := by
  by_cases hea : a = empty
  · rw [hea, empty_append]
    exact hb
  by_cases heb : b = empty
  · rw [heb, append_empty]
    exact ha
  rw [append_eq_node hea heb, below_node_iff]
  rintro (h | h | h | h)
  · exact hea h.symm
  · exact heb h.symm
  · exact ha h
  · exact hb h

/-! ## Nodes and leaves -/

/-- Where the empty twine stands below no node, there is one node less than there are leaves. -/
theorem size_add_one (hbelow : ¬ Below empty t) (hne : t ≠ empty) :
    t.size + 1 = 2 * t.pieces.length := by
  induction t with
  | empty => exact absurd rfl hne
  | node left right ihl ihr =>
      simp only [below_node_iff, not_or] at hbelow
      obtain ⟨hl, hr, hleft, hright⟩ := hbelow
      have hsizel := ihl hleft (Ne.symm hl)
      have hsizer := ihr hright (Ne.symm hr)
      rw [size, pieces, List.length_append]
      omega
  | _ => rfl

/-- Then no twine but the empty one is without a piece. -/
theorem pieces_eq_nil_iff (hbelow : ¬ Below empty t) : t.pieces = [] ↔ t = empty := by
  constructor
  · intro h
    by_contra hne
    have hsize := size_add_one hbelow hne
    rw [h, List.length_nil] at hsize
    omega
  · rintro rfl
    rfl

theorem isEmpty_iff : t.isEmpty = true ↔ t = empty := by
  cases t <;> simp [isEmpty]

/-! ## Recipes -/

/-- What can be made a twine by itself. -/
inductive Leaf where
  /-- A text that belongs to someone else. -/
  | borrowed (text : String)
  /-- A text that is given away. -/
  | owned (text : String)
  /-- A number or a truth value. -/
  | value (primitive : Primitive)
  /-- A pointer, which stands for the address it holds. -/
  | pointer (address : UInt64)

namespace Leaf

/-- The twine that a leaf is made. -/
def twine : Leaf → Twine
  | borrowed text => .borrowed text
  | owned text => .owned text
  | value primitive => .value primitive
  | pointer address => .value (.address address)

/-- What a leaf says. -/
def text : Leaf → String
  | borrowed text | owned text => text
  | value primitive => primitive.text
  | pointer address => Primitive.addressText address

end Leaf

/-- How a twine is put together. -/
inductive Recipe where
  /-- A new twine, which is empty. -/
  | new
  /-- The twine that stands where none was given. -/
  | default
  /-- A leaf alone. -/
  | single (leaf : Leaf)
  | concat (first second : Recipe)
  | append (first second : Recipe)

namespace Recipe

/-- The twine of a recipe. -/
def twine : Recipe → Twine
  | new => .empty
  | default => Inhabited.default
  | single leaf => leaf.twine
  | concat first second => first.twine.concat second.twine
  | append first second => first.twine ++ second.twine

/-- The leaves of a recipe from left to right. An empty twine is no leaf. -/
def leaves : Recipe → List Leaf
  | new | default => []
  | single leaf => [leaf]
  | concat first second | append first second => first.leaves ++ second.leaves

/-- Nothing that is built has an empty twine below a node. -/
theorem not_below_empty (r : Recipe) : ¬ Below empty r.twine := by
  induction r with
  | new | default => intro h; cases h
  | single leaf => cases leaf <;> (intro h; cases h)
  | concat first second ihf ihs | append first second ihf ihs => exact not_below_append ihf ihs

/-- What is built has a piece for each leaf of the recipe, in order. -/
theorem pieces_twine (r : Recipe) : r.twine.pieces = r.leaves.map Leaf.text := by
  induction r with
  | new | default => rfl
  | single leaf => cases leaf <;> rfl
  | concat first second ihf ihs | append first second ihf ihs =>
      rw [leaves, List.map_append, ← ihf, ← ihs]
      exact pieces_append _ _

variable {σ : Type}

/-- A sink gets one call for each leaf of the recipe. -/
theorem writeTo_twine (r : Recipe) (S : Sink σ) (s : σ) :
    r.twine.writeTo S s = S.receiveAll (r.leaves.map fun leaf => Call.text leaf.text) s := by
  rw [writeTo_eq_receiveAll, calls, pieces_twine, List.map_map]
  rfl

/-- What a recipe makes. -/
structure Composes (r : Recipe) : Prop where
  /-- The empty twine stands below no node. -/
  not_below : ¬ Below empty r.twine
  /-- There is one node less than there are leaves. -/
  size_eq : r.leaves ≠ [] → r.twine.size = 2 * r.leaves.length - 1
  eq_empty_iff : r.twine = empty ↔ r.leaves = []
  /-- Of all twines that are put together the empty one alone makes no call. -/
  isEmpty_iff : r.twine.isEmpty = true ↔ (r.twine.writeTo Sink.recorder []).1 = []
  /-- A sink gets one call for each leaf. -/
  writes : ∀ {σ : Type} (S : Sink σ) (s : σ),
    r.twine.writeTo S s = S.receiveAll (r.leaves.map fun leaf => Call.text leaf.text) s
  /-- Every other recipe with the same leaves in a row is written alike. -/
  regrouped : ∀ other : Recipe, other.leaves = r.leaves → ∀ {σ : Type} (S : Sink σ) (s : σ),
    other.twine.writeTo S s = r.twine.writeTo S s

/-- Every recipe makes a twine without a node or a call too many. -/
theorem composes (r : Recipe) : Composes r := by
  refine ⟨r.not_below_empty, ?size, ?empty, ?isEmpty, r.writeTo_twine, ?regrouped⟩
  case empty =>
    rw [← pieces_eq_nil_iff r.not_below_empty, pieces_twine, List.map_eq_nil_iff]
  case size =>
    intro hne
    have hempty : r.twine ≠ empty := by
      intro h
      have hpieces := (pieces_eq_nil_iff r.not_below_empty).mpr h
      rw [pieces_twine, List.map_eq_nil_iff] at hpieces
      exact hne hpieces
    have hsize := size_add_one r.not_below_empty hempty
    rw [pieces_twine, List.length_map] at hsize
    omega
  case isEmpty =>
    rw [Twine.isEmpty_iff, ← pieces_eq_nil_iff r.not_below_empty, writeTo_eq_receiveAll,
      Sink.receiveAll_recorder, List.nil_append, calls, List.map_eq_nil_iff]
  case regrouped =>
    intro other hleaves σ S s
    rw [writeTo_twine, writeTo_twine, hleaves]

end Recipe

/-- However three twines are grouped, they are written alike. -/
theorem writeTo_append_assoc {σ : Type} (S : Sink σ) (s : σ) (a b c : Twine) :
    (a ++ b ++ c).writeTo S s = (a ++ (b ++ c)).writeTo S s := by
  simp only [writeTo_eq_receiveAll, calls_append, List.append_assoc]

/-- **A twine is no more than its leaves, however it was put together.** The empty twine leaves no
trace in it, and what it writes depends on the leaves in a row; so the grouping of joined twines does
not matter to a sink, and the empty twine on either side not even to the tree. -/
theorem composes_recipe :
    (∀ r : Recipe, r.Composes) ∧
      (∀ {σ : Type} (S : Sink σ) (s : σ) (a b c : Twine),
        (a ++ b ++ c).writeTo S s = (a ++ (b ++ c)).writeTo S s ∧
          ((a.concat b).concat c).writeTo S s = (a.concat (b.concat c)).writeTo S s) ∧
      ∀ t : Twine, empty ++ t = t ∧ t ++ empty = t ∧ empty.concat t = t ∧ t.concat empty = t := by
  refine ⟨Recipe.composes, ?_, ?_⟩
  · intro σ S s a b c
    have hassoc := writeTo_append_assoc S s a b c
    exact ⟨hassoc, hassoc⟩
  · intro t
    have hleft := empty_append t
    have hright := append_empty t
    exact ⟨hleft, hright, hleft, hright⟩

/-- A leaf without a character is a leaf, and an empty twine is none. -/
example : (Recipe.append (.concat .new (.single (.owned ""))) (.append (.single (.pointer 0))
    .default)).twine = node (owned "") (value (.address 0)) :=
  rfl

end ShaderDiagnostics.Twine
