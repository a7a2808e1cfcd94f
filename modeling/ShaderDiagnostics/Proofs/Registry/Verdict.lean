import Mathlib
import ShaderDiagnostics.Proofs.Registry.Sources
/-!
# What does not depend on the sink

Two runs of the same operations with two different sinks, or without one, go through the same
sources and the same failure flag, while the sinks go their own ways. So whatever a compiler asks a
registry, but for the question whether there is a sink, is answered alike in both
(`Registry.sameVerdict_run`), and the compilation has failed exactly if an error was reported.
-/

namespace ShaderDiagnostics.Registry

variable {σ τ : Type}

/-! ## One step beside another -/

/-- Registries with the same sources answer alike, but for the question whether there is a sink. -/
theorem answer_congr (S : Sink σ) (T : Sink τ) {r : Registry σ} {r' : Registry τ}
    (h : r.sources = r'.sources) {op : Operation} (hop : op ≠ .hasSink) :
    (r.step S op).1 = (r'.step T op).1 := by
  cases op with
  | register name =>
      show Answer.id (r.register name).1 = Answer.id (r'.register name).1
      rw [register_id, register_id, h]
  | nameOf id => exact congrArg (fun t => Answer.name (t.nameOf id)) h
  | names => exact congrArg (fun t => Answer.names t.names) h
  | hasSink => exact absurd rfl hop
  | print _ _ _ | error _ _ | warning _ _ => rfl

/-! ## One run beside another -/

section Runs

variable (S : Sink σ) (T : Sink τ) (s : Option σ) (t : Option τ) (primary : String)

/-- Whatever the sinks, the same operations lead to the same sources. -/
theorem sources_after_eq (ops : List Operation) :
    ((Registry.new s primary).after S ops).sources =
      ((Registry.new t primary).after T ops).sources := by
  rw [sources_after, sources_after]
  rfl

/-- The compilation has failed exactly if an error was reported, whatever was printed. -/
theorem failed_after_iff (ops : List Operation) :
    ((Registry.new s primary).after S ops).failed = true ↔
      ∃ message l, Operation.error message l ∈ ops := by
  rw [failed_after, show (Registry.new s primary).failed = false from rfl, Bool.false_or,
    List.any_eq_true]
  constructor
  · rintro ⟨op, hop, herror⟩
    obtain ⟨message, l, rfl⟩ := Operation.isError_iff.mp herror
    exact ⟨message, l, hop⟩
  · rintro ⟨message, l, hop⟩
    exact ⟨_, hop, rfl⟩

/-- What two runs of the same operations from the same primary name have in common, one with a sink
`S` in the state `s` and one with a sink `T` in the state `t`; `none` is no sink. -/
structure SameVerdict (ops : List Operation) : Prop where
  /-- Every operation but the question whether there is a sink has one answer in both runs. -/
  answers : ∀ (i : ℕ) op, ops[i]? = some op → op ≠ .hasSink →
    ∃ answer, ((Registry.new s primary).run S ops).1[i]? = some answer ∧
      ((Registry.new t primary).run T ops).1[i]? = some answer
  /-- After every step, the compilation has failed in both runs or in neither. -/
  failed : ∀ n, ((Registry.new s primary).after S (ops.take n)).failed =
    ((Registry.new t primary).after T (ops.take n)).failed
  /-- It has failed exactly if one of the operations so far reports an error. -/
  failed_iff : ∀ n, ((Registry.new s primary).after S (ops.take n)).failed = true ↔
    ∃ message l, Operation.error message l ∈ ops.take n
  /-- Once it has failed, it has failed for good. -/
  stays : ∀ m n, m ≤ n → ((Registry.new s primary).after S (ops.take m)).failed = true →
    ((Registry.new s primary).after S (ops.take n)).failed = true

/-- The verdict on a compilation does not depend on where its diagnostics go. -/
theorem sameVerdict_run (ops : List Operation) : SameVerdict S T s t primary ops := by
  refine ⟨?answers, ?failed, ?failed_iff, ?stays⟩
  case answers =>
    intro i op hop hne
    have hsources := sources_after_eq S T s t primary (ops.take i)
    refine ⟨(((Registry.new s primary).after S (ops.take i)).step S op).1, ?_, ?_⟩
    · rw [getElem?_answers, hop, Option.map_some]
    · rw [getElem?_answers, hop, Option.map_some, answer_congr S T hsources hne]
  case failed =>
    intro n
    rw [Bool.eq_iff_iff, failed_after_iff, failed_after_iff]
  case failed_iff =>
    intro n
    exact failed_after_iff S s primary (ops.take n)
  case stays =>
    intro m n hle hfailed
    obtain ⟨message, l, herror⟩ := (failed_after_iff S s primary (ops.take m)).mp hfailed
    have hsub : ops.take m ⊆ ops.take n := (List.take_prefix_take_left hle).subset
    exact (failed_after_iff S s primary (ops.take n)).mpr ⟨message, l, hsub herror⟩

/-- A diagnostic that calls itself an error is none; an error is one even if nothing is written. -/
example :
    ((Registry.new (some Buffer.empty) "main").after Buffer.sink
        [.print "error" (.borrowed "odd") .unknown]).failed = false ∧
      ((Registry.new none "main").after Buffer.sink
        [.error .empty .unknown, .warning .empty .unknown]).failed = true := by
  decide

end Runs

end ShaderDiagnostics.Registry
