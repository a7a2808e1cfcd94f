import ShaderDiagnostics.Proofs.Sink.Calls
import ShaderDiagnostics.Sink.Recorder
/-!
# The leaves of a twine

A twine is known by its leaves (`Twine.leaves`), however it was put together. Each leaf but the empty
twine has a text of its own, which may have no characters (`Twine.leafText?`). A writer of text is
given these texts up to the first that it refuses. A sink refuses none, so it is given one call for
each, whatever becomes of the calls before it, and the text of the twine is these texts in one
(`Twine.reaches_leaf_by_leaf`).
-/

namespace ShaderDiagnostics

namespace Twine

/-! ## Leaves -/

/-- The leaves from left to right, the empty twine among them wherever it stands. -/
def leaves : Twine → List Twine
  | node left right => left.leaves ++ right.leaves
  | empty => [empty]
  | borrowed text => [borrowed text]
  | owned text => [owned text]
  | value primitive => [value primitive]

/-- The text of a leaf. The empty twine has none, and a node is no leaf. -/
def leafText? : Twine → Option String
  | borrowed text | owned text => some text
  | value primitive => some primitive.text
  | empty | node _ _ => none

/-- The pieces of a twine are the texts of its leaves. -/
theorem pieces_eq_filterMap_leaves (t : Twine) : t.pieces = t.leaves.filterMap leafText? := by
  induction t with
  | node left right ihl ihr => rw [pieces, leaves, List.filterMap_append, ihl, ihr]
  | _ => rfl

/-- A twine makes one call for each leaf that has a text. -/
theorem calls_eq_map_leaves (t : Twine) :
    t.calls = (t.leaves.filterMap leafText?).map Call.text := by
  rw [calls, pieces_eq_filterMap_leaves]

/-! ## Joined parts -/

/-- A node makes the calls of its left side and then those of its right side. -/
theorem calls_node (a b : Twine) : (node a b).calls = a.calls ++ b.calls :=
  List.map_append

/-- The twines that join two others make the calls of the one and then of the other. -/
theorem calls_append (a b : Twine) : (a ++ b).calls = a.calls ++ b.calls := by
  rw [calls, pieces_append, List.map_append]
  rfl

theorem pieces_foldl (parts : List Twine) (t : Twine) :
    (parts.foldl (· ++ ·) t).pieces = t.pieces ++ parts.flatMap pieces := by
  induction parts generalizing t with
  | nil => exact (List.append_nil _).symm
  | cons part parts ih =>
      rw [List.foldl_cons, ih, pieces_append, List.append_assoc, List.flatMap_cons]

/-- A row of twines has the pieces of each in turn. -/
theorem pieces_join (parts : List Twine) : (join parts).pieces = parts.flatMap pieces :=
  pieces_foldl parts empty

/-- Parts in a row make the calls of each in turn. -/
theorem calls_join (parts : List Twine) : (join parts).calls = parts.flatMap calls := by
  rw [calls, pieces_join, List.map_flatMap]
  rfl

/-- The calls of a twine carry the bytes of its text. -/
theorem payload_calls (t : Twine) : t.calls.flatMap Call.payload = Utf8.encode t.text := by
  rw [text_eq_join]
  exact Call.payload_texts t.pieces

/-! ## Twines at a sink -/

variable {σ : Type} (S : Sink σ)

/-- A twine with the calls of two others is written as they are, one after the other. -/
theorem writeTo_eq_performAll {a b joined : Twine} (h : joined.calls = a.calls ++ b.calls) (s : σ) :
    joined.writeTo S s = Write.performAll S [.twine a, .twine b] s := by
  rw [writeTo_eq_receiveAll, Write.performAll_eq_receiveAll, h]
  simp [Write.calls]

/-- What a twine is to the sink `S` in the state `s`, and what it is as text. -/
structure Reaches (S : Sink σ) (s : σ) (t : Twine) : Prop where
  /-- Any writer of text is given the texts of the leaves, from left to right, up to the first that it
  refuses. -/
  rendered : ∀ {ω : Type} (out : TextWriter ω),
    t.render out = forM (t.leaves.filterMap leafText?) out.write
  /-- A sink refuses none, whatever it does with them, so the rendering that a twine is written by is
  never cut short. -/
  uncut : (t.render S.textWriter).runFrom (s, []) = (.ok (), t.writeTo S s)
  /-- The sink is left as by one call for each leaf that has a text, from left to right. -/
  leaves : t.writeTo S s = S.receiveAll ((t.leaves.filterMap leafText?).map Call.text) s
  /-- A sink that keeps its calls has kept these and no other. -/
  recorded : t.writeTo Sink.recorder [] = ((t.leaves.filterMap leafText?).map Call.text, [])
  /-- However another twine is joined to it, the two are written one after the other. -/
  concat : ∀ next, (t.concat next).writeTo S s = Write.performAll S [.twine t, .twine next] s
  append : ∀ next, (t ++ next).writeTo S s = Write.performAll S [.twine t, .twine next] s
  node : ∀ next, (node t next).writeTo S s = Write.performAll S [.twine t, .twine next] s
  /-- The text comes of the same rendering, which no refusal cuts short either. -/
  displayed : (t.render .string).runFrom "" = (.ok (), t.text)
  /-- It joins the texts of the leaves. -/
  text_eq : t.text = String.join (t.leaves.filterMap leafText?)
  /-- Its bytes are those that a buffer takes up. -/
  buffered : ∀ buffer, (t.writeTo Buffer.sink buffer).1.bytes = buffer.bytes ++ Utf8.encode t.text

/-- A twine of any shape reaches a sink of any kind leaf by leaf, whatever the sink does. -/
theorem reaches_leaf_by_leaf (S : Sink σ) (s : σ) (t : Twine) : Reaches S s t where
  rendered := by
    intro ω out
    rw [render_eq_forM, pieces_eq_filterMap_leaves]
  uncut := by rw [runFrom_render_sink, writeTo_eq_receiveAll]
  leaves := by rw [writeTo_eq_receiveAll, calls_eq_map_leaves]
  recorded := by
    rw [writeTo_eq_receiveAll, calls_eq_map_leaves, Sink.receiveAll_recorder, List.nil_append]
  concat := fun next => writeTo_eq_performAll S (calls_append t next) s
  append := fun next => writeTo_eq_performAll S (calls_append t next) s
  node := fun next => writeTo_eq_performAll S (calls_node t next) s
  displayed := by rw [runFrom_render_string, text_eq_join]
  text_eq := by rw [text_eq_join, pieces_eq_filterMap_leaves]
  buffered := by
    intro buffer
    rw [writeTo_eq_receiveAll, Buffer.bytes_receiveAll, payload_calls]

/-- A writer that refuses a text is not asked again, where a sink would be. -/
example :
    let refusing : TextWriter String :=
      ⟨fun text => if text = "b" then throw .refused else modify (· ++ text)⟩
    ((node (borrowed "a") (node (borrowed "b") (borrowed "c"))).render refusing).runFrom "" =
      (.error .refused, "a") := by
  rfl

/-- Empty twines make no call wherever they stand, and an empty text makes one. -/
example :
    ((node (node empty (borrowed "")) (node (value (.bool true)) (node empty empty))).writeTo
      Sink.recorder []).1 = [.text "", .text "true"] := by
  decide

end Twine

end ShaderDiagnostics
