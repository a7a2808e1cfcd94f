import Mathlib
import ShaderDiagnostics.Proofs.Primitive.Equality
import ShaderDiagnostics.Proofs.Twine.Leaves
/-!
# Equal twines

Two twines are equal if they have the same outline and equal leaves in the same places (`beq_iff`).
Leaves are equal if they are the same, unless they hold a NaN, and the two zeros of a floating-point
format are equal as well (`LeafEquals`). So equality of twines is symmetric and transitive, the
twines without a NaN are equal to themselves, and equal twines write the same texts but for the signs
of zeros (`equality_of_twines`).
-/

namespace ShaderDiagnostics.Twine

/-! ## Outlines -/

/-- What is left of a twine without the contents of its leaves. -/
inductive Outline where
  | empty
  | borrowed
  | owned
  | value
  | node (left right : Outline)

/-- The outline of a twine. -/
def outline : Twine → Outline
  | empty => .empty
  | borrowed _ => .borrowed
  | owned _ => .owned
  | value _ => .value
  | node left right => .node left.outline right.outline

variable {a b c t : Twine}

/-- Twines of one outline have the same number of leaves. -/
theorem length_leaves_of_outline (h : a.outline = b.outline) :
    a.leaves.length = b.leaves.length := by
  induction a generalizing b with
  | node left right ihl ihr =>
      cases b with
      | node left' right' =>
          simp only [outline, Outline.node.injEq] at h
          rw [leaves, leaves, List.length_append, List.length_append, ihl h.1, ihr h.2]
      | _ => cases h
  | _ => cases b <;> first | rfl | cases h

/-! ## Equal leaves -/

/-- Two leaves are equal. -/
inductive LeafEquals : Twine → Twine → Prop where
  /-- They are the same leaf, which holds no NaN. -/
  | same {leaf : Twine} (h : ∀ p, leaf = value p → p.isNaN = false) : LeafEquals leaf leaf
  /-- They hold the two zeros of one format. -/
  | zeros {p q : Primitive} (h : p.Zeros q ∨ q.Zeros p) : LeafEquals (value p) (value q)

/-- Leaves with values are equal as the values are. -/
theorem leafEquals_value_iff {p q : Primitive} :
    LeafEquals (value p) (value q) ↔ (p == q) = true := by
  rw [Primitive.beq_iff]
  constructor
  · intro h
    cases h with
    | same h => exact .inl ⟨rfl, h p rfl⟩
    | zeros h => exact .inr h
  · rintro (⟨rfl, hnan⟩ | h)
    · refine .same fun p' hp => ?_
      rw [← value.inj hp]
      exact hnan
    · exact .zeros h

/-- Twines are equal if they have one outline and their leaves are equal in pairs. -/
structure Alike (a b : Twine) : Prop where
  outline : a.outline = b.outline
  leaves : List.Forall₂ LeafEquals a.leaves b.leaves

/-- Nodes are equal if both sides are. -/
theorem beq_node (a b a' b' : Twine) : (node a b == node a' b') = (a == a' && b == b') :=
  rfl

/-- Nodes are alike if they are so on both sides. -/
theorem alike_node_iff {a' b' : Twine} :
    Alike (node a b) (node a' b') ↔ Alike a a' ∧ Alike b b' := by
  constructor
  · rintro ⟨houtline, hleaves⟩
    obtain ⟨hleft, hright⟩ := Outline.node.inj houtline
    have hlength := length_leaves_of_outline hleft
    rw [Twine.leaves, Twine.leaves] at hleaves
    -- the leaves of the left sides are equally many, so the row is cut in the same place
    have htake := List.forall₂_take_append _ _ _ hleaves
    have hdrop := List.forall₂_drop_append _ _ _ hleaves
    rw [← hlength, List.take_left] at htake
    rw [← hlength, List.drop_left] at hdrop
    exact ⟨⟨hleft, htake⟩, ⟨hright, hdrop⟩⟩
  · rintro ⟨⟨hleft, hleaves⟩, ⟨hright, hleaves'⟩⟩
    exact ⟨congrArg₂ Outline.node hleft hright, List.rel_append hleaves hleaves'⟩

theorem alike_value_iff {p q : Primitive} : Alike (value p) (value q) ↔ (p == q) = true := by
  rw [← leafEquals_value_iff]
  constructor
  · rintro ⟨-, hleaves⟩
    exact (List.forall₂_cons.mp hleaves).1
  · intro h
    exact ⟨rfl, List.forall₂_cons.mpr ⟨h, .nil⟩⟩

/-- A leaf that holds no value is alike to itself and to no other leaf. -/
theorem alike_iff_eq (ha : a.leaves = [a]) (hb : b.leaves = [b]) (hvalue : ∀ p, a ≠ value p) :
    Alike a b ↔ a = b := by
  constructor
  · rintro ⟨-, hleaves⟩
    rw [ha, hb] at hleaves
    cases (List.forall₂_cons.mp hleaves).1 with
    | same => rfl
    | zeros => exact absurd rfl (hvalue _)
  · rintro rfl
    refine ⟨rfl, ?_⟩
    rw [ha]
    exact .cons (.same fun p hp => absurd hp (hvalue p)) .nil

/-- Equality of twines is that of outlines and leaves. -/
theorem beq_iff : (a == b) = true ↔ Alike a b := by
  induction a generalizing b with
  | node left right ihl ihr =>
      cases b with
      | node left' right' => rw [beq_node, Bool.and_eq_true, ihl, ihr, alike_node_iff]
      | _ => exact iff_of_false (fun h => by cases h) (fun h => by cases h.outline)
  | value p =>
      cases b with
      | value q => exact alike_value_iff.symm
      | _ => exact iff_of_false (fun h => by cases h) (fun h => by cases h.outline)
  | borrowed text =>
      cases b with
      | borrowed text' =>
          show (text == text') = true ↔ _
          rw [alike_iff_eq (a := borrowed text) rfl rfl fun _ => nofun, beq_iff_eq, borrowed.injEq]
      | _ => exact iff_of_false (fun h => by cases h) (fun h => by cases h.outline)
  | owned text =>
      cases b with
      | owned text' =>
          show (text == text') = true ↔ _
          rw [alike_iff_eq (a := owned text) rfl rfl fun _ => nofun, beq_iff_eq, owned.injEq]
      | _ => exact iff_of_false (fun h => by cases h) (fun h => by cases h.outline)
  | empty =>
      cases b with
      | empty => exact iff_of_true rfl ((alike_iff_eq (a := empty) rfl rfl fun _ => nofun).mpr rfl)
      | _ => exact iff_of_false (fun h => by cases h) (fun h => by cases h.outline)

/-! ## An equivalence but for NaNs -/

theorem LeafEquals.symm (h : LeafEquals a b) : LeafEquals b a := by
  cases h with
  | same h => exact .same h
  | zeros h => exact .zeros h.symm

theorem LeafEquals.trans (h : LeafEquals a b) (h' : LeafEquals b c) : LeafEquals a c := by
  cases h with
  | same => exact h'
  | zeros hpq =>
      cases h' with
      | same => exact .zeros hpq
      | zeros hqr =>
          rw [leafEquals_value_iff]
          have hfirst := Primitive.beq_iff.mpr (.inr hpq)
          have hsecond := Primitive.beq_iff.mpr (.inr hqr)
          exact BEq.trans hfirst hsecond

theorem Alike.symm (h : Alike a b) : Alike b a := by
  refine ⟨h.outline.symm, List.Forall₂.flip ?_⟩
  exact h.leaves.imp fun _ _ hleaf => hleaf.symm

theorem forall₂_leafEquals_trans {xs ys zs : List Twine} (h : List.Forall₂ LeafEquals xs ys)
    (h' : List.Forall₂ LeafEquals ys zs) : List.Forall₂ LeafEquals xs zs := by
  induction h generalizing zs with
  | nil => exact h'
  | cons hab _ ih =>
      cases h' with
      | cons hbc hrest => exact .cons (hab.trans hbc) (ih hrest)

theorem Alike.trans (h : Alike a b) (h' : Alike b c) : Alike a c :=
  ⟨h.outline.trans h'.outline, forall₂_leafEquals_trans h.leaves h'.leaves⟩

instance : PartialEquivBEq Twine where
  symm h := beq_iff.mpr (beq_iff.mp h).symm
  trans h h' := beq_iff.mpr ((beq_iff.mp h).trans (beq_iff.mp h'))

/-- A twine is equal to itself exactly if none of its leaves holds a NaN. -/
theorem beq_self_iff (t : Twine) :
    (t == t) = true ↔ ∀ p, value p ∈ t.leaves → p.isNaN = false := by
  rw [beq_iff]
  constructor
  · rintro ⟨-, hleaves⟩ p hp
    have hleaf := List.forall₂_same.mp hleaves _ hp
    rw [leafEquals_value_iff, Primitive.beq_self] at hleaf
    simpa using hleaf
  · intro h
    refine ⟨rfl, List.forall₂_same.mpr fun leaf hleaf => .same fun p hp => ?_⟩
    rw [hp] at hleaf
    exact h p hleaf

/-! ## Texts of equal twines -/

/-- Two leaves hold the zeros of one format, and the second one alone writes a sign. -/
def SignApart (a b : Twine) : Prop :=
  ∃ p q : Primitive, p.Zeros q ∧ a = value p ∧ b = value q ∧
    a.leafText? = some "0" ∧ b.leafText? = some "-0"

/-- Leaves with the two zeros of a width differ in the sign alone. -/
theorem SignApart.of_zeros {p q : Primitive} (h : p.Zeros q) : SignApart (value p) (value q) := by
  obtain ⟨hp, hq⟩ := h.text
  exact ⟨p, q, h, rfl, rfl, congrArg some hp, congrArg some hq⟩

/-- Equal leaves have the same text, unless they are zeros with opposite signs. -/
theorem LeafEquals.leafText?_eq_or (h : LeafEquals a b) :
    a.leafText? = b.leafText? ∨ SignApart a b ∨ SignApart b a := by
  cases h with
  | same => exact .inl rfl
  | zeros h =>
      right
      rcases h with h | h
      · exact .inl (.of_zeros h)
      · exact .inr (.of_zeros h)

/-- Two calls are the same, or they write a zero without and with its sign. -/
def CallsAgree (c c' : Call) : Prop :=
  c = c' ∨ (c = .text "0" ∧ c' = .text "-0") ∨ (c = .text "-0" ∧ c' = .text "0")

/-- Equal rows of leaves make calls that agree, one by one. -/
theorem forall₂_callsAgree {xs ys : List Twine} (h : List.Forall₂ LeafEquals xs ys) :
    List.Forall₂ CallsAgree ((xs.filterMap leafText?).map Call.text)
      ((ys.filterMap leafText?).map Call.text) := by
  induction h with
  | nil => exact .nil
  | @cons a b xs ys hab _ ih =>
      rcases hab.leafText?_eq_or with heq | ⟨p, q, -, -, -, ha, hb⟩ | ⟨p, q, -, -, -, hb, ha⟩
      · cases htext : a.leafText? with
        | none =>
            rw [List.filterMap_cons_none htext, List.filterMap_cons_none (heq ▸ htext)]
            exact ih
        | some text =>
            rw [List.filterMap_cons_some htext, List.filterMap_cons_some (heq ▸ htext)]
            exact .cons (.inl rfl) ih
      · rw [List.filterMap_cons_some ha, List.filterMap_cons_some hb]
        exact .cons (.inr (.inl ⟨rfl, rfl⟩)) ih
      · rw [List.filterMap_cons_some ha, List.filterMap_cons_some hb]
        exact .cons (.inr (.inr ⟨rfl, rfl⟩)) ih

/-- What is the same about two twines that are equal. -/
structure WritesAlike (a b : Twine) : Prop where
  outline : a.outline = b.outline
  /-- Leaves in the same place have the same text, or they hold two zeros that differ in sign. -/
  texts : List.Forall₂ (fun l l' => l.leafText? = l'.leafText? ∨ SignApart l l' ∨ SignApart l' l)
    a.leaves b.leaves
  /-- A sink gets the same calls but for the signs of zeros. -/
  calls : List.Forall₂ CallsAgree (a.writeTo Sink.recorder []).1 (b.writeTo Sink.recorder []).1

/-- Twines that are alike are written alike. -/
theorem Alike.writesAlike (h : Alike a b) : WritesAlike a b where
  outline := h.outline
  texts := h.leaves.imp fun _ _ hleaf => hleaf.leafText?_eq_or
  calls := by
    simp only [writeTo_eq_receiveAll, Sink.receiveAll_recorder, List.nil_append,
      calls_eq_map_leaves]
    exact forall₂_callsAgree h.leaves

/-- **Equality of twines** is symmetric and transitive, and it is reflexive but for NaNs. Equal twines
are alike leaf by leaf, and so they write the same texts but for the signs of zeros. -/
theorem equality_of_twines :
    (∀ a b : Twine, (a == b) = (b == a)) ∧
      (∀ a b c : Twine, (a == b) = true → (b == c) = true → (a == c) = true) ∧
      (∀ t : Twine, (t == t) = true ↔ ∀ p, value p ∈ t.leaves → p.isNaN = false) ∧
      (∀ a b : Twine, (a == b) = true ↔ Alike a b) ∧
      ∀ a b : Twine, (a == b) = true → WritesAlike a b := by
  refine ⟨?_, ?_, beq_self_iff, ?_, ?_⟩
  · intro a b
    exact BEq.comm
  · intro a b c h h'
    exact BEq.trans h h'
  · intro a b
    exact beq_iff
  · intro a b h
    exact (beq_iff.mp h).writesAlike

/-- Two twines that differ in the sign of a zero, and one that is not equal to itself. -/
theorem equality_of_twines_zeros :
    (node (borrowed "x = ") (value (.float64 0)) ==
        node (borrowed "x = ") (value (.float64 0x8000000000000000))) = true ∧
      (node (borrowed "x = ") (value (.float64 0)) ==
        node (borrowed "x = ") (value (.float64 0))) = true ∧
      WritesAlike (node (borrowed "x = ") (value (.float64 0)))
        (node (borrowed "x = ") (value (.float64 0x8000000000000000))) ∧
      (node empty (value (.float32 0x7FC00000)) == node empty (value (.float32 0x7FC00000))) ≠
        true := by
  obtain ⟨hcomm, htrans, hself, -, hwrites⟩ := equality_of_twines
  have hzeros : (node (borrowed "x = ") (value (.float64 0)) ==
      node (borrowed "x = ") (value (.float64 0x8000000000000000))) = true := by
    decide +kernel
  have hback := (hcomm _ _).symm.trans hzeros
  refine ⟨hzeros, htrans _ _ _ hzeros hback, hwrites _ _ hzeros, ?_⟩
  intro h
  have hnan := (hself _).mp h (.float32 0x7FC00000) (by simp [leaves])
  exact absurd hnan (by decide +kernel)

end ShaderDiagnostics.Twine
