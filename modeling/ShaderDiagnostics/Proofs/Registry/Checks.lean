import Mathlib
import ShaderDiagnostics.Proofs.Registry.Output
import ShaderDiagnostics.Proofs.Swizzle.Rejected
/-!
# Reports on rejected swizzles

Checking a row of swizzles against a registry is a run of one error for each rejected swizzle and of
nothing for any other (`Registry.checkSwizzles_eq_run`). So the sink receives one diagnostic for each
rejected swizzle, in order, and the compilation has failed exactly if there is one
(`Registry.reportsRejected_checkSwizzles`).
-/

namespace ShaderDiagnostics

namespace Swizzle.Check

/-! ## Reports -/

/-- The error that a check reports, if its swizzle is rejected. -/
def report? (check : Check) : Option Operation :=
  (complaint? check.read).map fun message => .error message check.location

/-- A check is reported exactly if it is rejected. -/
theorem isSome_report?_iff (check : Check) : check.report?.isSome = true ↔ check.Rejected := by
  rw [report?, Option.isSome_map, check.isSome_complaint?_iff]

/-- The calls of a diagnostic are those of one line, an error where the check stands that says why
its swizzle is rejected. -/
def Complains (sources : SourceTable) (check : Check) (calls : List Call) : Prop :=
  ∃ message : Twine, check.Explains message.text ∧
    calls = sources.block Diagnostic.error message check.location ∧
    calls.flatMap Call.payload = Utf8.encode (sources.nameOf check.location.source ++
      Diagnostic.positionText check.location ++ ": error: " ++ message.text ++ "\n")

/-- What is reported is written as a complaint about the check. -/
theorem complains_of_report? {check : Check} {op : Operation} (h : check.report? = some op)
    (sources : SourceTable) : check.Complains sources (op.block sources) := by
  obtain ⟨message, hmessage, rfl⟩ := Option.map_eq_some_iff.mp h
  refine ⟨message, explains_of_complaint? hmessage, rfl, ?_⟩
  have hpayload := Diagnostic.payload_block (sources.nameOf check.location.source) Diagnostic.error
    message check.location
  have hlabel : ∀ front : String,
      front ++ ": " ++ Diagnostic.error ++ ": " = front ++ ": error: " := by
    intro front
    rw [String.append_assoc, String.append_assoc]
    rfl
  rw [hlabel] at hpayload
  exact hpayload

/-- The errors of a row of checks, one for each that is rejected. -/
def reports (checks : List Check) : List Operation :=
  checks.filterMap report?

/-- Every report is an error. -/
theorem isError_of_mem_reports {checks : List Check} {op : Operation} (h : op ∈ reports checks) :
    op.isError = true := by
  obtain ⟨check, -, hcheck⟩ := List.mem_filterMap.mp h
  obtain ⟨message, -, rfl⟩ := Option.map_eq_some_iff.mp hcheck
  rfl

/-- The blocks of the errors, one for each rejected check. -/
theorem forall₂_blocks_reports (sources : SourceTable) (checks : List Check) :
    List.Forall₂ (fun check calls => check.Complains sources calls)
      (checks.filter fun check => check.Rejected) (sources.blocks (reports checks)) := by
  induction checks with
  | nil => exact .nil
  | cons check checks ih =>
      have hiff := check.isSome_report?_iff
      rw [reports, List.filterMap_cons, List.filter_cons]
      cases hreport : check.report? with
      | none =>
          rw [hreport] at hiff
          rw [if_neg (by simpa using hiff)]
          exact ih
      | some op =>
          rw [hreport] at hiff
          rw [if_pos (by simpa using hiff)]
          -- an error leaves the sources as they are
          obtain ⟨message, -, rfl⟩ := Option.map_eq_some_iff.mp hreport
          exact .cons (complains_of_report? hreport sources) ih

end Swizzle.Check

namespace Registry

open Swizzle (Check)

variable {σ : Type} (S : Sink σ)

/-! ## Checks as operations -/

/-- Checking a row of swizzles is a run of the errors that it reports. -/
theorem checkSwizzles_eq_run (checks : List Check) (r : Registry σ) :
    checkSwizzles S checks r = (r.run S (Check.reports checks)).2 := by
  induction checks generalizing r with
  | nil => rfl
  | cons check checks ih =>
      simp only [checkSwizzles, checkSwizzle, Check.reports, List.filterMap_cons, Check.report?]
      cases Swizzle.complaint? check.read with
      | none =>
          rw [ih]
          rfl
      | some message =>
          rw [ih]
          rfl

/-- Checking swizzles leaves the registry as reporting the errors does. -/
theorem fst_checkSwizzles (checks : List Check) (r : Registry σ) :
    (checkSwizzles S checks r).1 = r.after S (Check.reports checks) := by
  rw [checkSwizzles_eq_run]
  rfl

/-! ## What is reported -/

/-- What checking a row of swizzles leaves of a registry with a sink `S` in the state `s` that has
seen no error: the given diagnostics in the sink, each in its calls, and the failure flag. -/
structure ReportsRejected (S : Sink σ) (s : σ) (sources : SourceTable) (checks : List Check)
    (diagnostics : List (List Call)) : Prop where
  /-- There is one diagnostic for each rejected swizzle, in order, and it says why. -/
  complains : List.Forall₂ (fun check calls => check.Complains sources calls)
    (checks.filter fun check => check.Rejected) diagnostics
  count : diagnostics.length = checks.countP fun check => check.Rejected
  /-- The sink ends as the diagnostics leave it, written one after another. -/
  received : (checkSwizzles S checks ⟨sources, some s, false⟩).1.sink =
    some (S.receiveAll diagnostics.flatten s).1
  /-- A sink that keeps its calls has kept these and no other. -/
  recorded : (checkSwizzles Sink.recorder checks ⟨sources, some [], false⟩).1.sink =
    some diagnostics.flatten
  /-- The compilation has failed exactly if there is a diagnostic. -/
  failed_iff : (checkSwizzles S checks ⟨sources, some s, false⟩).1.failed = true ↔
    0 < diagnostics.length

/-- Every rejected swizzle is reported once, and nothing else is. -/
theorem reportsRejected_checkSwizzles (S : Sink σ) (s : σ) (sources : SourceTable)
    (checks : List Check) :
    ∃ diagnostics, ReportsRejected S s sources checks diagnostics := by
  have hcomplains := Check.forall₂_blocks_reports sources checks
  refine ⟨sources.blocks (Check.reports checks), hcomplains, ?count, ?received, ?recorded, ?failed⟩
  case count => rw [← hcomplains.length_eq, List.countP_eq_length_filter]
  case received =>
    rw [fst_checkSwizzles]
    exact sink_after S ⟨sources, some s, false⟩ (Check.reports checks)
  case recorded =>
    rw [fst_checkSwizzles, sink_after]
    exact congrArg (fun kept => some kept.1) (Sink.receiveAll_recorder _ [])
  case failed =>
    rw [fst_checkSwizzles, failed_after, SourceTable.length_blocks, Bool.false_or, List.any_eq_true]
    constructor
    · rintro ⟨op, hop, -⟩
      exact List.length_pos_of_mem hop
    · intro hpos
      obtain ⟨op, hop⟩ := List.exists_mem_of_length_pos hpos
      exact ⟨op, hop, Check.isError_of_mem_reports hop⟩

/-- Of three checks, one text is no swizzle and one selects a component twice. -/
example :
    ((checkSwizzles Buffer.sink
        [⟨.vector, "xq", ⟨0, 1, 2⟩⟩, ⟨.vector, "bgr", ⟨0, 2, 2⟩⟩, ⟨.matrix, "_11_11", .unknown⟩]
        (Registry.new (some Buffer.empty) "main")).1.sink.map Buffer.bytes) =
      some (Utf8.encode ("main:1:2: error: invalid swizzle component `q`\n" ++
        "main: error: invalid write mask '._m00_m00'\n")) := by
  decide +kernel

end Registry

end ShaderDiagnostics
