import Mathlib
import ShaderDiagnostics.Event
/-!
# Reports

The events of one operation, put together from what there is to say (`Event.report`): the first
error, the sources that got an id, the diagnostic, and the failures to write it. Each kind of event
is found again in a report as it went in (`Event.filterMap_failure?_report` and its like). The first
error stands before everything else (`Event.pairwise_firstError_report`), and the diagnostic before
its failures (`Event.pairwise_printed_report`).
-/

namespace ShaderDiagnostics

/-! ## Events by kind -/

namespace Event

/-- The id and the name of a source that got an id. -/
def registration? : Event → Option (UInt32 × String)
  | registeredSource id name => some (id, name)
  | firstError _ | printing _ _ | writeFailed _ _ | opened _ => none

/-- The location of the first error. -/
def firstErrorAt? : Event → Option Location
  | firstError l => some l
  | registeredSource _ _ | printing _ _ | writeFailed _ _ | opened _ => none

/-- The severity and the location of a diagnostic that is about to be written. -/
def printed? : Event → Option (String × Location)
  | printing severity l => some (severity, l)
  | registeredSource _ _ | firstError _ | writeFailed _ _ | opened _ => none

/-- The error and the size of a chunk that could not be written. -/
def failure? : Event → Option (IoError × ℕ)
  | writeFailed error size => some (error, size)
  | registeredSource _ _ | firstError _ | printing _ _ | opened _ => none

/-- The event of a chunk that could not be written, from its error and its size. -/
def ofFailure (failure : IoError × ℕ) : Event :=
  .writeFailed failure.1 failure.2

/-- A warning is always about a chunk that could not be written. -/
theorem level_ne_warn {event : Event} (h : event.failure? = none) : event.level ≠ .warn := by
  cases event with
  | writeFailed _ _ => cases h
  | registeredSource _ _ | firstError _ | printing _ _ | opened _ =>
      intro hlevel
      cases hlevel

/-! ## Reports -/

/-- What an operation reports, from what there is to say: the first error, the sources that got an
id, the diagnostic, and the chunks of it that could not be written. -/
def report (firstErrors : List Location) (sources : List (UInt32 × String))
    (printed : List (String × Location)) (failures : List (IoError × ℕ)) : List Event :=
  firstErrors.map firstError ++ sources.map (fun source => registeredSource source.1 source.2) ++
    printed.map (fun diagnostic => printing diagnostic.1 diagnostic.2) ++ failures.map ofFailure

section Report

variable (firstErrors : List Location) (sources : List (UInt32 × String))
  (printed : List (String × Location)) (failures : List (IoError × ℕ))

theorem filterMap_firstErrorAt?_report :
    (report firstErrors sources printed failures).filterMap firstErrorAt? = firstErrors := by
  simp [report, firstErrorAt?, ofFailure, Function.comp_def]

theorem filterMap_registration?_report :
    (report firstErrors sources printed failures).filterMap registration? = sources := by
  simp [report, registration?, ofFailure, Function.comp_def]

theorem filterMap_printed?_report :
    (report firstErrors sources printed failures).filterMap printed? = printed := by
  simp [report, printed?, ofFailure, Function.comp_def]

theorem filterMap_failure?_report :
    (report firstErrors sources printed failures).filterMap failure? = failures := by
  simp [report, failure?, ofFailure, Function.comp_def]

/-- No report speaks of a destination that is opened. -/
theorem opened_not_mem_report (destination : Destination) :
    .opened destination ∉ report firstErrors sources printed failures := by
  simp [report, ofFailure]

/-- Nothing stands before the first error. -/
theorem pairwise_firstError_report (h : firstErrors.length ≤ 1) :
    (report firstErrors sources printed failures).Pairwise fun _ later =>
      later.firstErrorAt? = none := by
  have hrest : ∀ event ∈ sources.map (fun source => registeredSource source.1 source.2) ++
      (printed.map (fun diagnostic => printing diagnostic.1 diagnostic.2) ++
        failures.map ofFailure), event.firstErrorAt? = none := by
    simp only [List.mem_append, List.mem_map]
    rintro event (⟨_, -, rfl⟩ | ⟨_, -, rfl⟩ | ⟨_, -, rfl⟩) <;> rfl
  have halone : (firstErrors.map firstError).Pairwise fun _ later => later.firstErrorAt? = none := by
    match firstErrors, h with
    | [], _ => exact .nil
    | [_], _ => exact List.pairwise_singleton _ _
  rw [report, List.append_assoc, List.append_assoc, List.pairwise_append]
  exact ⟨halone, List.pairwise_of_forall_mem_list fun _ _ event hevent => hrest event hevent,
    fun _ _ event hevent => hrest event hevent⟩

/-- No failure stands before the diagnostic. -/
theorem pairwise_printed_report :
    (report firstErrors sources printed failures).Pairwise fun earlier later =>
      earlier.failure?.isSome → later.printed? = none := by
  have hlead : ∀ event ∈ firstErrors.map firstError ++
      sources.map (fun source => registeredSource source.1 source.2) ++
      printed.map (fun diagnostic => printing diagnostic.1 diagnostic.2),
      ¬ event.failure?.isSome := by
    simp only [List.mem_append, List.mem_map]
    rintro event ((⟨_, -, rfl⟩ | ⟨_, -, rfl⟩) | ⟨_, -, rfl⟩) <;> exact Bool.false_ne_true
  have hfailures : ∀ event ∈ failures.map ofFailure, event.printed? = none := by
    simp only [List.mem_map]
    rintro event ⟨_, -, rfl⟩
    rfl
  rw [report, List.pairwise_append]
  exact ⟨List.pairwise_of_forall_mem_list fun event hevent _ _ h => absurd h (hlead event hevent),
    List.pairwise_of_forall_mem_list fun _ _ event hevent _ => hfailures event hevent,
    fun event hevent _ _ h => absurd h (hlead event hevent)⟩

/-- The first error and the sources alone are matters of level `debug`. -/
theorem level_report_ne_debug :
    ∀ event ∈ report [] [] printed failures, event.level ≠ .debug := by
  simp only [report, List.map_nil, List.nil_append, List.mem_append, List.mem_map]
  rintro event (⟨_, -, rfl⟩ | ⟨_, -, rfl⟩) hlevel <;> cases hlevel

end Report

end Event

end ShaderDiagnostics
