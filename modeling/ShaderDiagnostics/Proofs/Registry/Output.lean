import ShaderDiagnostics.Proofs.Registry.Runs
import ShaderDiagnostics.Sink.Recorder
/-!
# What a registry writes

The calls that the sink of a registry receives over a run are the blocks of its operations, in order:
one block for each diagnostic, with the source named as the table stands at that moment, and nothing
for any other operation (`Registry.transcribes_run`).
-/

namespace ShaderDiagnostics

/-! ## Blocks of a run -/

/-- The blocks of a row of operations, one for each, where each operation is taken with the sources
that the ones before it leave. -/
def SourceTable.blocks (t : SourceTable) : List Operation → List (List Call)
  | [] => []
  | op :: rest => op.block t :: (op.sourcesAfter t).blocks rest

/-- There is one block for each operation, which may be empty. -/
theorem SourceTable.length_blocks (t : SourceTable) (ops : List Operation) :
    (t.blocks ops).length = ops.length := by
  induction ops generalizing t with
  | nil => rfl
  | cons op ops ih => exact congrArg Nat.succ (ih _)

namespace Registry

variable {σ : Type} (S : Sink σ)

/-- The block of an operation is made from the sources that a registry has when it comes to it. -/
theorem getElem?_blocks (r : Registry σ) (ops : List Operation) (i : Nat) :
    (r.sources.blocks ops)[i]? =
      ops[i]?.map fun op => op.block (r.after S (ops.take i)).sources := by
  induction ops generalizing r i with
  | nil => rfl
  | cons op ops ih =>
      cases i with
      | zero => rfl
      | succ i =>
          have hnext := ih (r.step S op).2.1 i
          rw [sources_step] at hnext
          exact hnext

/-- The sink receives the blocks of a run, in order. -/
theorem sink_after (r : Registry σ) (ops : List Operation) :
    (r.after S ops).sink =
      r.sink.map fun s => (S.receiveAll (r.sources.blocks ops).flatten s).1 := by
  induction ops generalizing r with
  | nil => exact (map_receiveAll_nil S r.sink).symm
  | cons op ops ih =>
      rw [after_cons, ih, step_state, SourceTable.blocks, List.flatten_cons]
      cases r.sink with
      | none => rfl
      | some s => exact congrArg (fun after => some after.1) (S.receiveAll_append _ _ s).symm

/-- What the sink `S` of a new registry receives, from its state `s` on, over the operations `ops`:
the given blocks of calls. -/
structure Transcribes (S : Sink σ) (s : σ) (primary : String) (ops : List Operation)
    (blocks : List (List Call)) : Prop where
  /-- There is one block for each operation, made from the sources of that moment. -/
  block_at : ∀ i : Nat, blocks[i]? =
    ops[i]?.map fun op => op.block ((Registry.new (some s) primary).after S (ops.take i)).sources
  /-- The sink ends as these calls leave it, made one after another. -/
  received : ((Registry.new (some s) primary).after S ops).sink =
    some (S.receiveAll blocks.flatten s).1
  /-- A sink that keeps its calls has kept these and no other. -/
  recorded : ((Registry.new (some []) primary).after Sink.recorder ops).sink = some blocks.flatten
  /-- The bytes of a block are one line of text. -/
  payload : ∀ (t : SourceTable) severity message l,
    (t.block severity message l).flatMap Call.payload =
      Utf8.encode (t.names[l.source.toNat]?.getD t.primary ++ Diagnostic.positionText l ++ ": " ++
        severity ++ ": " ++ message.text ++ "\n")

/-- Over every run, a sink receives the blocks of the operations and nothing else. -/
theorem transcribes_run (S : Sink σ) (s : σ) (primary : String) (ops : List Operation) :
    Transcribes S s primary ops (SourceTable.blocks ⟨primary, []⟩ ops) where
  block_at := fun i => getElem?_blocks S (Registry.new (some s) primary) ops i
  received := sink_after S (Registry.new (some s) primary) ops
  recorded := by
    rw [sink_after]
    exact congrArg (fun kept => some kept.1) (Sink.receiveAll_recorder _ [])
  payload := fun t severity message l =>
    Diagnostic.payload_block (t.names[l.source.toNat]?.getD t.primary) severity message l

/-- An empty name, an empty severity and a leaf without text are calls of their own, an empty message
is none, and an id stands for the primary name until its source is registered. -/
example :
    ((Registry.new (some []) "").after Sink.recorder
      [.print "" .empty .unknown, .warning .empty ⟨1, 2, 3⟩, .register "lib",
        .error (.borrowed "") ⟨1, 2, 3⟩]).sink =
      some [.text "", .text ":", .text " ", .text "", .text ": ", .text "\n",
        .text "", .text ":", .text "2", .text ":", .text "3", .text ":", .text " ", .text "warning",
        .text ": ", .text "\n",
        .text "lib", .text ":", .text "2", .text ":", .text "3", .text ":", .text " ", .text "error",
        .text ": ", .text "", .text "\n"] := by
  decide

end Registry

end ShaderDiagnostics
