import ShaderDiagnostics.Proofs.Diagnostic.Line
import ShaderDiagnostics.Registry.Operation
/-!
# Runs of a registry, step by step

What an operation does to a registry is known from the operation and the sources alone
(`Registry.step_state`): the sources take up the name that it registers, the sink, if there is one,
receives the block of the diagnostic that it writes, and the compilation fails if it reports an
error. `Registry.after` is where a row of operations leads, and `getElem?_answers` finds the answers
on the way.
-/

namespace ShaderDiagnostics

/-! ## What an operation does -/

/-- A table after a name is registered: a new name goes to the end. -/
def SourceTable.learn (t : SourceTable) (name : String) : SourceTable :=
  if name ∈ t.names then t else t.push name

/-- The calls of a diagnostic while the sources are as in `t`. The source is the entry of the table
at the id of the location, or the primary name as long as there is no such entry. -/
def SourceTable.block (t : SourceTable) (severity : String) (message : Twine) (l : Location) :
    List Call :=
  Diagnostic.block (t.names[l.source.toNat]?.getD t.primary) severity message l

namespace Operation

/-- The name that an operation registers. -/
def registered? : Operation → Option String
  | register name => some name
  | nameOf _ | names | hasSink | print _ _ _ | error _ _ | warning _ _ => none

/-- The sources after an operation. -/
def sourcesAfter (t : SourceTable) (op : Operation) : SourceTable :=
  op.registered?.elim t t.learn

/-- The calls of an operation while the sources are as in `t`: one block for each diagnostic, and
none for anything else. -/
def block (t : SourceTable) : Operation → List Call
  | print severity message l => t.block severity message l
  | error message l => t.block Diagnostic.error message l
  | warning message l => t.block Diagnostic.warning message l
  | register _ | nameOf _ | names | hasSink => []

/-- The severity, the message and the location of the diagnostic that an operation writes, if it
writes one. -/
def diagnostic? : Operation → Option (String × Twine × Location)
  | print severity message l => some (severity, message, l)
  | error message l => some (Diagnostic.error, message, l)
  | warning message l => some (Diagnostic.warning, message, l)
  | register _ | nameOf _ | names | hasSink => none

/-- The block of an operation that writes a diagnostic is that of the diagnostic. -/
theorem block_of_diagnostic? {op : Operation} {severity : String} {message : Twine} {l : Location}
    (h : op.diagnostic? = some (severity, message, l)) (t : SourceTable) :
    op.block t = t.block severity message l := by
  cases op <;> cases h <;> rfl

/-- Whether an operation reports an error. -/
def isError : Operation → Bool
  | error _ _ => true
  | register _ | nameOf _ | names | hasSink | print _ _ _ | warning _ _ => false

theorem isError_iff {op : Operation} : op.isError = true ↔ ∃ message l, op = error message l := by
  cases op <;> simp [isError]

end Operation

namespace Registry

variable {σ : Type} (S : Sink σ)

/-! ## Steps -/

/-- Registering a name lets the table learn it, and touches nothing else. -/
theorem register_state (name : String) (r : Registry σ) :
    (r.register name).2.1 = { r with sources := r.sources.learn name } := by
  unfold register SourceTable.learn
  by_cases hmem : name ∈ r.sources.names
  · cases hid : r.sources.id? name with
    | none => exact absurd hmem ((r.sources.id?_eq_none_iff name).mp hid)
    | some id => rw [if_pos hmem]
  · rw [(r.sources.id?_eq_none_iff name).mpr hmem, if_neg hmem]

/-- Printing touches the sink alone, which receives the block of the diagnostic. -/
theorem print_state (severity : String) (message : Twine) (l : Location) (r : Registry σ) :
    (r.print S severity message l).1 =
      { r with
        sink := r.sink.map fun s => (S.receiveAll (r.sources.block severity message l) s).1 } := by
  obtain ⟨sources, sink, failed⟩ := r
  cases sink with
  | none => rfl
  | some s =>
      show Registry.mk sources (some (Twine.writeTo S _ s).1) failed = _
      rw [Twine.writeTo_eq_receiveAll, diagnostic, Diagnostic.calls_line]
      rfl

/-- A sink that receives nothing stays as it is. -/
theorem map_receiveAll_nil (sink : Option σ) :
    (sink.map fun s => (S.receiveAll [] s).1) = sink := by
  cases sink <;> rfl

/-- What an operation leaves. -/
theorem step_state (r : Registry σ) (op : Operation) :
    (r.step S op).2.1 =
      { sources := op.sourcesAfter r.sources
        sink := r.sink.map fun s => (S.receiveAll (op.block r.sources) s).1
        failed := r.failed || op.isError } := by
  cases op with
  | register name =>
      simp only [Operation.block, Operation.isError, map_receiveAll_nil, Bool.or_false]
      exact register_state name r
  | nameOf _ | names | hasSink =>
      simp only [Operation.block, Operation.isError, map_receiveAll_nil, Bool.or_false]
      rfl
  | print severity message l =>
      simp only [Operation.isError, Bool.or_false]
      exact print_state S severity message l r
  | error message l =>
      simp only [Operation.isError, Bool.or_true]
      exact print_state S _ message l (r.noteError l).1
  | warning message l =>
      simp only [Operation.isError, Bool.or_false]
      exact print_state S _ message l r

/-- The sources after an operation are known from the sources before it. -/
theorem sources_step (r : Registry σ) (op : Operation) :
    (r.step S op).2.1.sources = op.sourcesAfter r.sources :=
  congrArg Registry.sources (step_state S r op)

/-! ## Runs -/

/-- The registry that a row of operations leads to. -/
def after (r : Registry σ) (ops : List Operation) : Registry σ :=
  (r.run S ops).2.1

theorem after_nil (r : Registry σ) : r.after S [] = r :=
  rfl

theorem after_cons (r : Registry σ) (op : Operation) (ops : List Operation) :
    r.after S (op :: ops) = (r.step S op).2.1.after S ops :=
  rfl

/-- A run may be stopped and taken up again. -/
theorem after_append (r : Registry σ) (before later : List Operation) :
    r.after S (before ++ later) = (r.after S before).after S later := by
  induction before generalizing r with
  | nil => rfl
  | cons op before ih => exact ih _

/-- Each operation is answered as it is where the operations before it lead. -/
theorem getElem?_answers (r : Registry σ) (ops : List Operation) (i : Nat) :
    (r.run S ops).1[i]? = ops[i]?.map fun op => ((r.after S (ops.take i)).step S op).1 := by
  induction ops generalizing r i with
  | nil => rfl
  | cons op ops ih =>
      cases i with
      | zero => rfl
      | succ i => exact ih _ i

/-- The sources after a run are known from the operations. -/
theorem sources_after (r : Registry σ) (ops : List Operation) :
    (r.after S ops).sources = ops.foldl Operation.sourcesAfter r.sources := by
  induction ops generalizing r with
  | nil => rfl
  | cons op ops ih => rw [after_cons, ih, sources_step, List.foldl_cons]

/-- The compilation has failed after a run if it had before, or if the run reports an error. -/
theorem failed_after (r : Registry σ) (ops : List Operation) :
    (r.after S ops).failed = (r.failed || ops.any Operation.isError) := by
  induction ops generalizing r with
  | nil => exact (Bool.or_false _).symm
  | cons op ops ih => rw [after_cons, ih, step_state, List.any_cons, Bool.or_assoc]

end Registry

end ShaderDiagnostics
