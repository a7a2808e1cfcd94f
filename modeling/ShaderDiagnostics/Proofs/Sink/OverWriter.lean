import Mathlib
import ShaderDiagnostics.Proofs.Device.Attempts
import ShaderDiagnostics.Proofs.Sink.Calls
/-!
# Histories of a sink over a writer

A sink over a writer is compared with the bare device (`ScriptedDevice.history`): the device is
given every chunk of every operation in turn and is flushed when the sink is, and what becomes of
each chunk is recorded. The records tell the whole story of the sink (`WriterSink.accounts_run`):
what is written, which failures are reported, and which error is kept, namely the first one since
the last time that an error was taken.
-/

namespace ShaderDiagnostics

/-! ## Attempts that failed -/

/-- The event that reports a failed attempt: its error and the size of the whole chunk. -/
def Attempt.warning (a : Attempt) : Option Event :=
  a.error.map fun e => .writeFailed e a.chunk.length

/-- The error of the first attempt that failed. -/
def firstError (attempts : List Attempt) : Option IoError :=
  attempts.findSome? Attempt.error

/-- The first error of two rows is that of the first row, if it has one. -/
theorem firstError_append (a b : List Attempt) :
    firstError (a ++ b) = (firstError a).or (firstError b) :=
  List.findSome?_append

theorem firstError_cons (a : Attempt) (rest : List Attempt) :
    firstError (a :: rest) = a.error.or (firstError rest) := by
  rw [firstError, List.findSome?_cons]
  cases a.error <;> rfl

namespace WriterSink

/-! ## Runs -/

section Runs

variable {ω : Type} (W : Writer ω)

/-- A run may be stopped and taken up again. -/
theorem run_append (before after : List Operation) (s : WriterSink ω) :
    s.run W (before ++ after) =
      ((s.run W before).1 ++ ((s.run W before).2.1.run W after).1,
        ((s.run W before).2.1.run W after).2.1,
        (s.run W before).2.2 ++ ((s.run W before).2.1.run W after).2.2) := by
  induction before generalizing s with
  | nil => rfl
  | cons op before ih => simp [run, ih]

/-- Every operation is answered. -/
theorem length_run (ops : List Operation) (s : WriterSink ω) :
    (s.run W ops).1.length = ops.length := by
  induction ops generalizing s with
  | nil => rfl
  | cons op ops ih => exact congrArg (· + 1) (ih _)

/-- The answer of an operation is the one that it gives where the operations before it lead. -/
theorem run_getElem? (before : List Operation) (op : Operation) (after : List Operation)
    (s : WriterSink ω) :
    (s.run W (before ++ op :: after)).1[before.length]? =
      some ((s.run W before).2.1.step W op).1 := by
  rw [run_append, ← length_run W before s, List.getElem?_append_right (Nat.le_refl _),
    Nat.sub_self]
  rfl

end Runs

/-! ## The chunks of an operation -/

/-- The chunks that an operation writes. -/
def Operation.chunks : Operation → List Bytes
  | write content => content.chunks
  | flush => []
  | takeError => []

/-- What an operation comes to at the device. -/
inductive Record where
  /-- The chunks of a write were attempted. -/
  | wrote (attempts : List Attempt)
  /-- The device was flushed. -/
  | flushed (error : Option IoError)
  /-- The device was left alone, and the kept error taken. -/
  | taken

namespace Record

/-- The attempts that an operation led to. -/
def attempts : Record → List Attempt
  | wrote attempts => attempts
  | flushed _ => []
  | taken => []

/-- Whether an error was taken. -/
def isTaken : Record → Bool
  | taken => true
  | _ => false

/-- The error kept after an operation, from the one kept before it. -/
def carry (kept : Option IoError) : Record → Option IoError
  | wrote attempts => kept.or (firstError attempts)
  | flushed _ => kept
  | taken => none

end Record

/-- The attempts of all records, in order. -/
def attempts (records : List Record) : List Attempt :=
  records.flatMap Record.attempts

/-- The attempts after the last record of a taken error, or all of them if there is none. -/
def sinceTaken (records : List Record) : List Attempt :=
  attempts (records.rtakeWhile fun r => !r.isTaken)

/-- A taken error forgets the attempts before it, and any other record adds its own. -/
theorem sinceTaken_concat (records : List Record) (r : Record) :
    sinceTaken (records ++ [r]) = if r.isTaken then [] else sinceTaken records ++ r.attempts := by
  rw [sinceTaken, List.rtakeWhile_concat]
  cases h : r.isTaken with
  | false => simp [sinceTaken, attempts]
  | true => rfl

/-- Carrying the kept error along all records keeps the first error since the last taken one. -/
theorem foldl_carry (records : List Record) :
    records.foldl Record.carry none = firstError (sinceTaken records) := by
  induction records using List.reverseRecOn with
  | nil => rfl
  | append_singleton records r ih =>
      rw [List.foldl_append, ih, sinceTaken_concat]
      cases r with
      | wrote chunks => exact (firstError_append _ chunks).symm
      | flushed error => exact congrArg firstError (List.append_nil _).symm
      | taken => rfl

end WriterSink

/-! ## The bare device -/

namespace ScriptedDevice

open WriterSink (Record)

/-- An operation at the bare device: the chunks of a write are attempted whatever becomes of them,
and nothing is kept but the record. -/
def perform (d : ScriptedDevice) : WriterSink.Operation → Record × ScriptedDevice
  | .write content =>
    let (attempts, d) := d.attemptAll content.chunks
    (.wrote attempts, d)
  | .flush =>
    let (error, d) := d.flush
    (.flushed error, d)
  | .takeError => (.taken, d)

/-- A row of operations at the bare device: the records and the device after them. -/
def history (d : ScriptedDevice) : List WriterSink.Operation → List Record × ScriptedDevice
  | [] => ([], d)
  | op :: rest =>
    let (record, d) := d.perform op
    let (records, d) := d.history rest
    (record :: records, d)

/-- An operation has its chunks attempted at the device, in order. -/
theorem map_chunk_perform (d : ScriptedDevice) (op : WriterSink.Operation) :
    (d.perform op).1.attempts.map Attempt.chunk = op.chunks := by
  cases op with
  | write content => exact map_chunk_attemptAll content.chunks d
  | flush => rfl
  | takeError => rfl

/-- The device keeps the accepted fronts of the chunks. -/
theorem written_perform (d : ScriptedDevice) (op : WriterSink.Operation) :
    (d.perform op).2.written =
      d.written ++ (d.perform op).1.attempts.flatMap Attempt.accepted := by
  cases op with
  | write content => exact written_attemptAll content.chunks d
  | flush => exact (List.append_nil _).symm
  | takeError => exact (List.append_nil _).symm

/-- An operation has a front of each of its chunks accepted, and all of it unless there is
an error. -/
theorem accepted_of_mem_perform {d : ScriptedDevice} {op : WriterSink.Operation} {a : Attempt}
    (h : a ∈ (d.perform op).1.attempts) :
    a.accepted <+: a.chunk ∧ (a.error = none → a.accepted = a.chunk) := by
  cases op with
  | write content => exact accepted_of_mem_attemptAll h
  | flush => exact absurd h List.not_mem_nil
  | takeError => exact absurd h List.not_mem_nil

/-- The chunks of all operations are attempted, in order. -/
theorem map_chunk_history (d : ScriptedDevice) (ops : List WriterSink.Operation) :
    (WriterSink.attempts (d.history ops).1).map Attempt.chunk =
      ops.flatMap WriterSink.Operation.chunks := by
  induction ops generalizing d with
  | nil => rfl
  | cons op ops ih =>
      rw [List.flatMap_cons, ← map_chunk_perform d op, ← ih (d.perform op).2, ← List.map_append]
      rfl

/-- The device keeps the accepted fronts of all chunks, in order. -/
theorem written_history (d : ScriptedDevice) (ops : List WriterSink.Operation) :
    (d.history ops).2.written =
      d.written ++ (WriterSink.attempts (d.history ops).1).flatMap Attempt.accepted := by
  induction ops generalizing d with
  | nil => exact (List.append_nil _).symm
  | cons op ops ih =>
      rw [show (d.history (op :: ops)).2 = ((d.perform op).2.history ops).2 from rfl, ih,
        written_perform, List.append_assoc, ← List.flatMap_append]
      rfl

/-- Over all operations, a front of each chunk is accepted, and all of it unless there is an
error. -/
theorem accepted_of_mem_history {d : ScriptedDevice} {ops : List WriterSink.Operation}
    {a : Attempt} (h : a ∈ WriterSink.attempts (d.history ops).1) :
    a.accepted <+: a.chunk ∧ (a.error = none → a.accepted = a.chunk) := by
  induction ops generalizing d with
  | nil => exact absurd h List.not_mem_nil
  | cons op ops ih =>
      rcases List.mem_append.mp h with hfirst | hrest
      · exact accepted_of_mem_perform hfirst
      · exact ih hrest

end ScriptedDevice

/-! ## The sink beside the device -/

namespace WriterSink

/-- A chunk at the sink is an attempt at the device; its failure is kept unless one is kept yet,
and reported. -/
theorem put_writer (chunk : Bytes) (d : ScriptedDevice) (kept : Option IoError) :
    put ScriptedDevice.writer chunk ⟨d, kept⟩ =
      (⟨(d.writeAll chunk).2, kept.or (d.attempt chunk).error⟩,
        (d.attempt chunk).warning.toList) := by
  unfold put
  rw [Attempt.warning, show (d.attempt chunk).error = (d.writeAll chunk).1 from rfl]
  rcases h : ScriptedDevice.writer.writeAll chunk d with ⟨_ | e, d'⟩
  · rw [show d.writeAll chunk = (none, d') from h, Option.or_none]
    rfl
  · rw [show d.writeAll chunk = (some e, d') from h]
    rfl

/-- A row of calls is a row of attempts at the device. The first failure is kept unless one is kept
yet, and each is reported. -/
theorem receiveAll_writer (calls : List Call) (d : ScriptedDevice) (kept : Option IoError) :
    (sink ScriptedDevice.writer).receiveAll calls ⟨d, kept⟩ =
      (⟨(d.attemptAll (calls.map Call.payload)).2,
          kept.or (firstError (d.attemptAll (calls.map Call.payload)).1)⟩,
        (d.attemptAll (calls.map Call.payload)).1.filterMap Attempt.warning) := by
  induction calls generalizing d kept with
  | nil => rw [Sink.receiveAll_nil]; simp [ScriptedDevice.attemptAll, firstError]
  | cons call calls ih =>
      rw [Sink.receiveAll, show (sink ScriptedDevice.writer).receive call ⟨d, kept⟩ =
        put ScriptedDevice.writer call.payload ⟨d, kept⟩ from rfl, put_writer]
      simp only [ih, List.map_cons, ScriptedDevice.attemptAll, firstError_cons, Option.or_assoc,
        List.filterMap_cons]
      cases (d.attempt call.payload).warning <;> rfl

/-- One operation: the device goes on as the bare one, the kept error is carried along, and the
failures among the attempts are reported. -/
theorem step_writer (d : ScriptedDevice) (kept : Option IoError) (op : Operation) :
    (step ScriptedDevice.writer ⟨d, kept⟩ op).2 =
      (⟨(d.perform op).2, (d.perform op).1.carry kept⟩,
        (d.perform op).1.attempts.filterMap Attempt.warning) := by
  cases op with
  | write content =>
      exact (content.perform_eq_receiveAll (sink ScriptedDevice.writer) ⟨d, kept⟩).trans
        (receiveAll_writer content.calls d kept)
  | flush => rfl
  | takeError => rfl

/-- A run from any kept error. -/
theorem run_writer (d : ScriptedDevice) (kept : Option IoError) (ops : List Operation) :
    (run ScriptedDevice.writer ⟨d, kept⟩ ops).2 =
      (⟨(d.history ops).2, (d.history ops).1.foldl Record.carry kept⟩,
        (attempts (d.history ops).1).filterMap Attempt.warning) := by
  induction ops generalizing d kept with
  | nil => rfl
  | cons op ops ih =>
      simp only [run, step_writer, ih, ScriptedDevice.history, List.foldl_cons, attempts,
        List.flatMap_cons, List.filterMap_append]

/-! ## What a run shows -/

/-- The answer due to an operation of a new sink over `d`, after the operations `before`: the result
of the device's own flush, or the first error since the last time that one was taken. -/
def dueAnswer (d : ScriptedDevice) (before : List Operation) : Operation → Answer
  | .write _ => .done
  | .flush => .flushed (d.history before).2.flush.1
  | .takeError => .taken (firstError (sinceTaken (d.history before).1))

/-- The answers, the last state and the events of a run account for every chunk that is written to a
new sink over `d`. -/
structure Accounts (d : ScriptedDevice) (ops : List Operation) (answers : List Answer)
    (s : WriterSink ScriptedDevice) (events : List Event) : Prop where
  /-- Every chunk is attempted, in order, whatever became of the chunks before it. -/
  attempted : (attempts (d.history ops).1).map Attempt.chunk = ops.flatMap Operation.chunks
  /-- A front of each chunk is accepted, and the whole chunk if there is no error. -/
  accepted : ∀ a ∈ attempts (d.history ops).1,
    a.accepted <+: a.chunk ∧ (a.error = none → a.accepted = a.chunk)
  /-- The writer is the device that attempted the chunks. -/
  writer_eq : s.writer = (d.history ops).2
  /-- It holds what was accepted, in order. -/
  written : s.writer.written =
    d.written ++ (attempts (d.history ops).1).flatMap Attempt.accepted
  /-- One event for each failed chunk, in order, and no other event. -/
  events_eq : events = (attempts (d.history ops).1).filterMap Attempt.warning
  level : ∀ event ∈ events, event.level = .warn
  /-- Every operation is answered as is due. -/
  length_answers : answers.length = ops.length
  answer : ∀ before op after, ops = before ++ op :: after →
    answers[before.length]? = some (dueAnswer d before op)
  /-- The kept error is the first one since the last time that one was taken. -/
  kept : s.error = firstError (sinceTaken (d.history ops).1)
  /-- To take an error next takes the kept one, leaves none and does not touch the writer. -/
  taken : s.takeError = (s.error, ⟨s.writer, none⟩)
  /-- To flush next gives the writer's own result and changes neither the kept error nor what is
  written. -/
  flushed : (s.flush ScriptedDevice.writer).1 = s.writer.flush.1 ∧
    (s.flush ScriptedDevice.writer).2.error = s.error ∧
    (s.flush ScriptedDevice.writer).2.writer.written = s.writer.written

/-- A failure is reported as a warning. -/
theorem level_of_warning {a : Attempt} {event : Event} (h : a.warning = some event) :
    event.level = .warn := by
  obtain ⟨e, -, rfl⟩ := Option.map_eq_some_iff.mp h
  rfl

/-- Wherever a run of a new sink leads, the operation that comes next is answered as is due. -/
theorem step_run_writer (d : ScriptedDevice) (before : List Operation) (op : Operation) :
    (step ScriptedDevice.writer (run ScriptedDevice.writer ⟨d, none⟩ before).2.1 op).1 =
      dueAnswer d before op := by
  rw [run_writer, foldl_carry]
  cases op <;> rfl

/-- A chunk that fails halfway, one that is not accepted at all, and one that is: the error taken is
that of the first. Each flush ends as its script says, and leaves the kept error alone. -/
example :
    (run ScriptedDevice.writer
      ⟨{ script := [.acceptUpTo 1, .fail (.reported .interrupted "again"), .fail .nulInPath,
          .acceptUpTo 0]
         flushScript := [some .nothingAccepted] }, none⟩
      [.write (.bytes [1, 2, 3]), .flush, .write (.bytes [4]), .takeError, .write (.bytes [5]),
        .flush, .takeError]).1 =
      [.done, .flushed (some .nothingAccepted), .done, .taken (some .nulInPath), .done, .flushed none,
        .taken none] := by
  cbv

end WriterSink

end ShaderDiagnostics
