import Mathlib
import ShaderDiagnostics.Device.Scripted
import ShaderDiagnostics.Proofs.Event.Report
import ShaderDiagnostics.Proofs.Registry.Output
import ShaderDiagnostics.Proofs.Registry.Sources
import ShaderDiagnostics.Proofs.Sink.Failures
import ShaderDiagnostics.Sink.Callback
/-!
# What a registry reports

The events of an operation are known from the operation and the registry that it comes to
(`Registry.events_step`): the first error, a source that got an id, the diagnostic, if there is a
sink, and each chunk of it that the sink fails to write, in this order. `Registry.trace` gives the
events of a run operation by operation. Over a run they account for the sources of the table and for
the first error (`Registry.traces_run`).
-/

namespace ShaderDiagnostics

/-! ## Events of an operation -/

namespace Operation

/-- The name that an operation adds to a table. -/
def newName? (t : SourceTable) (op : Operation) : Option String :=
  op.registered?.filter (· ∉ t.names)

/-- The location of the error that an operation reports. -/
def errorAt? : Operation → Option Location
  | error _ l => some l
  | register _ | nameOf _ | names | hasSink | print _ _ _ | warning _ _ => none

/-- The severity and the location of the diagnostic that an operation writes. -/
def printed? (op : Operation) : Option (String × Location) :=
  op.diagnostic?.map fun (severity, _, l) => (severity, l)

/-- The location of an error that is the first one. -/
def firstErrors (failed : Bool) (op : Operation) : List Location :=
  if failed then [] else op.errorAt?.toList

/-- The source that gets an id. -/
def registrations (t : SourceTable) (op : Operation) : List (UInt32 × String) :=
  (op.newName? t).toList.map fun name => (t.nextId, name)

/-- The diagnostic that is written if there is a sink. -/
def printings (hasSink : Bool) (op : Operation) : List (String × Location) :=
  if hasSink then op.printed?.toList else []

/-- An operation that writes a diagnostic registers no source. -/
theorem registrations_of_printed? {op : Operation} (h : op.printed?.isSome) (t : SourceTable) :
    op.registrations t = [] := by
  cases op with
  | print _ _ _ | error _ _ | warning _ _ => rfl
  | register _ | nameOf _ | names | hasSink => exact absurd h Bool.false_ne_true

/-- An operation adds its new name to the table, if it has one. -/
theorem names_sourcesAfter (op : Operation) (t : SourceTable) :
    (op.sourcesAfter t).names = t.names ++ (op.newName? t).toList := by
  unfold sourcesAfter newName?
  cases op.registered? with
  | none => exact (List.append_nil _).symm
  | some name =>
      by_cases hmem : name ∈ t.names
      · simp [SourceTable.learn, Option.filter, hmem]
      · simp [SourceTable.learn, SourceTable.names_push, Option.filter, hmem]

/-- An operation is the first error at most once. -/
theorem length_firstErrors (failed : Bool) (op : Operation) : (op.firstErrors failed).length ≤ 1 := by
  unfold firstErrors
  cases failed <;> cases op.errorAt? <;> simp

end Operation

namespace Registry

variable {σ : Type} {S : Sink σ} {failure : Call → σ → Option IoError}

/-- Registering a name reports the new source, if there is one, and nothing else. -/
theorem events_register (name : String) (r : Registry σ) :
    (r.register name).2.2 =
      Event.report [] (Operation.registrations r.sources (.register name)) [] [] := by
  by_cases hmem : name ∈ r.sources.names
  · rw [register_of_mem hmem]
    simp [Event.report, Operation.registrations, Operation.newName?, Operation.registered?,
      Option.filter, hmem]
  · unfold register
    rw [(r.sources.id?_eq_none_iff name).mpr hmem]
    simp [Event.report, Operation.registrations, Operation.newName?, Operation.registered?,
      Option.filter, hmem]

/-- Printing reports the diagnostic if there is a sink, and then the calls that failed. -/
theorem events_print (h : S.Reports failure) (severity : String) (message : Twine) (l : Location)
    (r : Registry σ) :
    (r.print S severity message l).2 =
      Event.report [] [] (Operation.printings r.sink.isSome (.print severity message l))
        (r.sink.elim [] (S.failures failure (r.sources.block severity message l))) := by
  obtain ⟨sources, sink, failed⟩ := r
  cases sink with
  | none => rfl
  | some s =>
      show .printing severity l :: (Twine.writeTo S _ s).2 = _
      rw [Twine.writeTo_eq_receiveAll, diagnostic, Diagnostic.calls_line, h.events_receiveAll]
      rfl

/-- What an operation reports. -/
theorem events_step (h : S.Reports failure) (r : Registry σ) (op : Operation) :
    (r.step S op).2.2 =
      Event.report (op.firstErrors r.failed) (op.registrations r.sources)
        (op.printings r.sink.isSome) (r.sink.elim [] (S.failures failure (op.block r.sources))) := by
  have hnothing : ∀ sink : Option σ, sink.elim [] (S.failures failure []) = [] := by
    rintro (_ | s) <;> rfl
  cases op with
  | register name =>
      show (r.register name).2.2 = _
      rw [events_register, Operation.block, hnothing]
      cases r.failed <;> cases r.sink <;> rfl
  | nameOf _ | names | hasSink =>
      rw [Operation.block, hnothing]
      cases r.failed <;> cases r.sink <;> rfl
  | print severity message l =>
      show (r.print S severity message l).2 = _
      rw [events_print h]
      cases r.failed <;> rfl
  | error message l =>
      show (r.noteError l).2 ++ ((r.noteError l).1.print S Diagnostic.error message l).2 = _
      rw [events_print h]
      unfold noteError
      cases r.failed <;> rfl
  | warning message l =>
      show (r.print S Diagnostic.warning message l).2 = _
      rw [events_print h]
      cases r.failed <;> rfl

/-- What there is in a log for the operation `op`, when it comes to the registry `r` with the sink
`S`. -/
structure Reported (S : Sink σ) (failure : Call → σ → Option IoError) (r : Registry σ)
    (op : Operation) (events : List Event) : Prop where
  /-- A name that the table does not hold gets the next id; there is no event of any other name. -/
  registered : events.filterMap Event.registration? =
    (op.newName? r.sources).toList.map fun name => (r.sources.nextId, name)
  /-- An error is the first one if none was remembered. -/
  firstError : events.filterMap Event.firstErrorAt? = if r.failed then [] else op.errorAt?.toList
  /-- With a sink, there is one event for a diagnostic, and without a sink none. -/
  printed : events.filterMap Event.printed? = if r.sink.isSome then op.printed?.toList else []
  /-- There is one event for each chunk that the sink fails to write, in the order of the chunks. -/
  failed : events.filterMap Event.failure? =
    r.sink.elim [] (S.failures failure (op.block r.sources))
  /-- There is no event of any other kind. -/
  nothing_else : ∀ destination, .opened destination ∉ events
  /-- The first error comes before any other event. -/
  firstError_before : events.Pairwise fun _ later => later.firstErrorAt? = none
  /-- The event of the diagnostic comes before every failure to write it. -/
  printed_before : events.Pairwise fun earlier later =>
    earlier.failure?.isSome → later.printed? = none
  /-- To write a diagnostic that is no error, or a warning, is no matter of level `debug`. -/
  no_debug : op.printed?.isSome → op.errorAt? = none → ∀ event ∈ events, event.level ≠ .debug

/-- The events of an operation are its report. -/
theorem reported_step (h : S.Reports failure) (r : Registry σ) (op : Operation) :
    Reported S failure r op (r.step S op).2.2 := by
  rw [events_step h]
  refine ⟨?registered, ?firstError, ?printed, ?failed, ?nothing_else, ?firstError_before,
    ?printed_before, ?no_debug⟩
  case registered => exact Event.filterMap_registration?_report _ _ _ _
  case firstError => exact Event.filterMap_firstErrorAt?_report _ _ _ _
  case printed => exact Event.filterMap_printed?_report _ _ _ _
  case failed => exact Event.filterMap_failure?_report _ _ _ _
  case nothing_else => exact Event.opened_not_mem_report _ _ _ _
  case firstError_before =>
    exact Event.pairwise_firstError_report _ _ _ _ (op.length_firstErrors r.failed)
  case printed_before => exact Event.pairwise_printed_report _ _ _ _
  case no_debug =>
    intro hprinted herror
    have hfirst : op.firstErrors r.failed = [] := by
      rw [Operation.firstErrors, herror]
      exact ite_self []
    rw [hfirst, op.registrations_of_printed? hprinted]
    exact Event.level_report_ne_debug _ _

/-! ## Runs -/

section Runs

variable (S)

/-- The events of a row of operations, operation by operation. -/
def trace (r : Registry σ) : List Operation → List (List Event)
  | [] => []
  | op :: rest => (r.step S op).2.2 :: trace (r.step S op).2.1 rest

/-- The events of a run are those of its operations, in order. -/
theorem flatten_trace (r : Registry σ) (ops : List Operation) :
    (r.trace S ops).flatten = (r.run S ops).2.2 := by
  induction ops generalizing r with
  | nil => rfl
  | cons op ops ih => exact congrArg ((r.step S op).2.2 ++ ·) (ih _)

/-- Each operation reports what it reports where the operations before it lead. -/
theorem getElem?_trace (r : Registry σ) (ops : List Operation) (i : ℕ) :
    (r.trace S ops)[i]? = ops[i]?.map fun op => ((r.after S (ops.take i)).step S op).2.2 := by
  induction ops generalizing r i with
  | nil => rfl
  | cons op ops ih =>
      cases i with
      | zero => rfl
      | succ i => exact ih _ i

/-- What is picked out of the events of a run is picked operation by operation. -/
theorem filterMap_trace_cons {β : Type} (f : Event → Option β) (r : Registry σ) (op : Operation)
    (ops : List Operation) :
    (r.trace S (op :: ops)).flatten.filterMap f =
      (r.step S op).2.2.filterMap f ++ ((r.step S op).2.1.trace S ops).flatten.filterMap f := by
  rw [trace, List.flatten_cons, List.filterMap_append]

end Runs

/-- The first error of a run is reported, unless there was one before. -/
theorem firstErrors_trace (h : S.Reports failure) (r : Registry σ) (ops : List Operation) :
    (r.trace S ops).flatten.filterMap Event.firstErrorAt? =
      if r.failed then [] else (ops.findSome? Operation.errorAt?).toList := by
  induction ops generalizing r with
  | nil => cases r.failed <;> rfl
  | cons op ops ih =>
      rw [filterMap_trace_cons, (reported_step h r op).firstError, ih, step_state,
        List.findSome?_cons]
      cases r.failed <;> cases op <;> rfl

/-- The sources that get an id in a run are the names that come to stand behind the table. -/
theorem registrations_trace (h : S.Reports failure) (r : Registry σ) (ops : List Operation) :
    ∃ appended, (r.after S ops).sources.names = r.sources.names ++ appended ∧
      (r.trace S ops).flatten.filterMap Event.registration? =
        (appended.zipIdx r.sources.size).map fun entry => (Word.clamp entry.2, entry.1) := by
  induction ops generalizing r with
  | nil => exact ⟨[], (List.append_nil _).symm, rfl⟩
  | cons op ops ih =>
      obtain ⟨appended, hnames, htrace⟩ := ih (r.step S op).2.1
      have hnext := op.names_sourcesAfter r.sources
      refine ⟨(op.newName? r.sources).toList ++ appended, ?_, ?_⟩
      -- The operation adds one name or none, and the names behind it move up by as many places.
      · rw [after_cons, hnames, sources_step, hnext, List.append_assoc]
      · rw [filterMap_trace_cons, (reported_step h r op).registered, htrace, sources_step,
          SourceTable.size, hnext, List.zipIdx_append, List.map_append, List.length_append]
        cases op.newName? r.sources <;> rfl

/-- The chunks that the sink fails to write in a run are reported, over all its blocks in order. -/
theorem failures_trace (h : S.Reports failure) (r : Registry σ) (ops : List Operation) :
    (r.trace S ops).flatten.filterMap Event.failure? =
      r.sink.elim [] (S.failures failure (r.sources.blocks ops).flatten) := by
  induction ops generalizing r with
  | nil => cases r.sink <;> rfl
  | cons op ops ih =>
      rw [filterMap_trace_cons, (reported_step h r op).failed, ih, step_state, SourceTable.blocks,
        List.flatten_cons]
      cases r.sink with
      | none => rfl
      | some s => exact (Sink.failures_append _ _ s).symm

/-! ## What a run reports -/

/-- What there is in the log of a new registry with the primary source `primary`, after the
operations `ops`; `failure` tells which calls the sink `S` fails to take. -/
structure Traces (S : Sink σ) (failure : Call → σ → Option IoError) (sink : Option σ)
    (primary : String) (ops : List Operation) : Prop where
  /-- The events of the run are those of its operations, in order. -/
  events_eq : ((Registry.new sink primary).run S ops).2.2 =
    ((Registry.new sink primary).trace S ops).flatten
  /-- Each operation is accounted for, as it finds the registry. -/
  each : ∀ (i : ℕ) op, ops[i]? = some op → ∃ events,
    ((Registry.new sink primary).trace S ops)[i]? = some events ∧
      Reported S failure ((Registry.new sink primary).after S (ops.take i)) op events
  /-- The sink is there throughout or not at all. -/
  sink_isSome : ∀ n, ((Registry.new sink primary).after S (ops.take n)).sink.isSome = sink.isSome
  /-- The sources that got an id are the entries of the table behind the primary one, each with its
  place for an id. -/
  registered : ((Registry.new sink primary).after S ops).sources.size ≤ UInt32.size → ∀ i : ℕ,
    (((Registry.new sink primary).run S ops).2.2.filterMap Event.registration?)[i]? =
      ((Registry.new sink primary).after S ops).sources.names[i + 1]?.map fun name =>
        (UInt32.ofNat (i + 1), name)
  /-- There is one event for each chunk of the run that the sink fails to write, in order. -/
  failed : ((Registry.new sink primary).run S ops).2.2.filterMap Event.failure? =
    sink.elim [] (S.failures failure (SourceTable.blocks ⟨primary, []⟩ ops).flatten)
  /-- The first error is reported once if there is an error, with its location, and never if there is
  none. -/
  firstError : ((Registry.new sink primary).run S ops).2.2.filterMap Event.firstErrorAt? =
    (ops.findSome? Operation.errorAt?).toList
  /-- It is the first event of the first operation that reports an error. -/
  firstError_at : ∀ (i : ℕ) message l, ops[i]? = some (.error message l) →
    (∀ op ∈ ops.take i, ∀ message l, op ≠ .error message l) →
    ∃ more, ((Registry.new sink primary).trace S ops)[i]? = some (.firstError l :: more)

/-- A run over a sink that reports its failures is accounted for by its events. -/
theorem traces_of_reports (h : S.Reports failure) (sink : Option σ) (primary : String)
    (ops : List Operation) : Traces S failure sink primary ops := by
  refine ⟨?events_eq, ?each, ?sink_isSome, ?registered, ?failed, ?firstError, ?firstError_at⟩
  case events_eq => exact (flatten_trace S _ ops).symm
  case each =>
    intro i op hop
    refine ⟨_, ?_, reported_step h _ op⟩
    rw [getElem?_trace, hop, Option.map_some]
  case sink_isSome =>
    intro n
    rw [sink_after, Option.isSome_map]
    rfl
  case registered =>
    intro hsize i
    obtain ⟨appended, hnames, htrace⟩ := registrations_trace h (Registry.new sink primary) ops
    have hlen : 1 + appended.length ≤ UInt32.size := by
      rw [SourceTable.size, hnames, List.length_append] at hsize
      exact hsize
    rw [← flatten_trace, htrace, hnames, List.getElem?_map, List.getElem?_zipIdx,
      show (Registry.new sink primary).sources.names ++ appended = primary :: appended from rfl,
      List.getElem?_cons_succ]
    cases hname : appended[i]? with
    | none => rfl
    | some name =>
        have hi : i < appended.length := (List.getElem?_eq_some_iff.mp hname).1
        rw [Option.map_some, Option.map_some, Option.map_some,
          show (Registry.new sink primary).sources.size + i = i + 1 from Nat.add_comm 1 i,
          Word.clamp_of_lt (by omega)]
  case failed =>
    rw [← flatten_trace]
    exact failures_trace h (Registry.new sink primary) ops
  case firstError =>
    rw [← flatten_trace]
    exact firstErrors_trace h (Registry.new sink primary) ops
  case firstError_at =>
    intro i message l hop hbefore
    have hfailed : ((Registry.new sink primary).after S (ops.take i)).failed = false := by
      rw [failed_after, show (Registry.new sink primary).failed = false from rfl, Bool.false_or,
        List.any_eq_false]
      intro op hmem herror
      obtain ⟨message', l', rfl⟩ := Operation.isError_iff.mp herror
      exact hbefore _ hmem message' l' rfl
    rw [getElem?_trace, hop, Option.map_some, events_step h, hfailed]
    exact ⟨_, rfl⟩

/-- Buffers, callbacks and recorders report nothing. -/
example {τ : Type} :
    Buffer.sink = Sink.quiet (fun call buffer => buffer.push call.payload) ∧
      Callback.sink = Sink.quiet (fun call (c : Callback τ) => c.call call.payload) ∧
      Sink.recorder = Sink.quiet (fun call calls => calls ++ [call]) :=
  ⟨rfl, rfl, rfl⟩

/-- The second chunk of the error fails. The warning comes after the first error. -/
example :
    ((Registry.new (some ⟨{ script := [.acceptAll, .fail .nulInPath] }, none⟩) "main").run
      (WriterSink.sink ScriptedDevice.writer)
      [.register "lib", .register "main", .error .empty ⟨1, 2, 3⟩, .error .empty .unknown]).2.2 =
      [.registeredSource 1 "lib", .firstError ⟨1, 2, 3⟩, .printing "error" ⟨1, 2, 3⟩,
        .writeFailed .nulInPath 1, .printing "error" .unknown] := by
  cbv

end Registry

end ShaderDiagnostics
