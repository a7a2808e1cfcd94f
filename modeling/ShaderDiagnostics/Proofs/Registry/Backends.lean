import Mathlib
import ShaderDiagnostics.Proofs.Device.Steady
import ShaderDiagnostics.Proofs.Registry.Trace
import ShaderDiagnostics.Proofs.Sink.OverWriter
/-!
# The same bytes everywhere

What a user writes to a sink, and what a registry writes to it afterwards (`Session`), is one row of
chunks, whatever the sink is (`Session.fst_run`). A buffer holds the chunks in one, a callback is
handed them one by one, and a steady device accepts them all, however it cuts them up, without an
error and without a warning (`Session.backends_agree`).
-/

namespace ShaderDiagnostics

/-! ## Calls at a sink -/

/-- The host is handed the bytes of each call. -/
theorem Callback.receiveAll_attached {τ : Type} (handler : Bytes → τ → τ) (calls : List Call)
    (host : τ) :
    (Callback.sink.receiveAll calls ⟨some handler, host⟩).1 =
      ⟨some handler, (calls.map Call.payload).foldl (fun host chunk => handler chunk host) host⟩ := by
  induction calls generalizing host with
  | nil => rfl
  | cons call calls ih => exact ih (handler call.payload host)

namespace WriterSink

/-- Over a steady device, nothing fails and no error is kept. -/
theorem receiveAll_of_steady (calls : List Call) {d : ScriptedDevice} (hd : d.Steady) :
    (sink ScriptedDevice.writer).receiveAll calls ⟨d, none⟩ =
      (⟨(d.attemptAll (calls.map Call.payload)).2, none⟩, []) := by
  obtain ⟨hnone, -⟩ := ScriptedDevice.attemptAll_of_steady (calls.map Call.payload) hd
  rw [receiveAll_writer, Prod.mk.injEq, mk.injEq]
  refine ⟨⟨rfl, List.findSome?_eq_none_iff.mpr hnone⟩, List.filterMap_eq_nil_iff.mpr ?_⟩
  intro a hmem
  rw [Attempt.warning, hnone a hmem]
  rfl

/-- No call to a sink over a steady device fails. -/
theorem failures_of_steady (calls : List Call) {d : ScriptedDevice} (hd : d.Steady) :
    (sink ScriptedDevice.writer).failures (failure ScriptedDevice.writer) calls ⟨d, none⟩ = [] := by
  rw [← List.map_eq_nil_iff, ← (reports_failure ScriptedDevice.writer).events_receiveAll,
    receiveAll_of_steady calls hd]

end WriterSink

/-! ## Sessions -/

/-- What goes to a sink: writes of a user, and then the operations of a registry. -/
structure Session where
  writes : List Write
  primary : String
  ops : List Operation

namespace Session

variable {σ τ : Type}

/-- The sink after a session, which the registry holds, and the events of the session. -/
def run (session : Session) (S : Sink σ) (s : σ) : Option σ × List Event :=
  let (s, events) := Write.performAll S session.writes s
  let (_, r, more) := (Registry.new (some s) session.primary).run S session.ops
  (r.sink, events ++ more)

/-- The calls of a session: those of the writes, and the blocks of the operations. -/
def calls (session : Session) : List Call :=
  session.writes.flatMap Write.calls ++
    (SourceTable.blocks ⟨session.primary, []⟩ session.ops).flatten

/-- The chunks of a session, one for each call. -/
def chunks (session : Session) : List Bytes :=
  session.calls.map Call.payload

/-- The sink of a session receives its calls. -/
theorem fst_run (session : Session) (S : Sink σ) (s : σ) :
    (session.run S s).1 = some (S.receiveAll session.calls s).1 := by
  rw [calls, S.receiveAll_append, ← Write.performAll_eq_receiveAll]
  exact Registry.sink_after S (Registry.new (some _) session.primary) session.ops

/-- Over a steady device, a session gives no warning. -/
theorem level_ne_warn_of_steady (session : Session) {d : ScriptedDevice} (hd : d.Steady) :
    ∀ event ∈ (session.run (WriterSink.sink ScriptedDevice.writer) ⟨d, none⟩).2,
      event.level ≠ .warn := by
  have hwrites := WriterSink.receiveAll_of_steady (session.writes.flatMap Write.calls) hd
  obtain ⟨-, hsteady⟩ := ScriptedDevice.attemptAll_of_steady
    ((session.writes.flatMap Write.calls).map Call.payload) hd
  -- The device is still steady when the writes are over and the registry takes the sink.
  have hnone : (session.run (WriterSink.sink ScriptedDevice.writer) ⟨d, none⟩).2.filterMap
      Event.failure? = [] := by
    rw [run, Write.performAll_eq_receiveAll, hwrites]
    simp only [List.nil_append]
    rw [← Registry.flatten_trace,
      Registry.failures_trace (WriterSink.reports_failure ScriptedDevice.writer)]
    exact WriterSink.failures_of_steady _ hsteady
  intro event hmem
  exact Event.level_ne_warn (List.filterMap_eq_nil_iff.mp hnone event hmem)

/-- What three sinks have taken up of the same chunks: a buffer, a callback of the host `host`, and a
sink over the device `d`. -/
structure Agree (chunks : List Bytes) (handler : Bytes → τ → τ) (host : τ) (d : ScriptedDevice)
    (buffer : Buffer) (callback : Callback τ) (file : WriterSink ScriptedDevice)
    (events : List Event) : Prop where
  /-- The buffer holds the chunks in one. -/
  buffered : buffer.bytes = chunks.flatten
  /-- The host was handed the chunks, one after another. -/
  handed : callback = ⟨some handler, chunks.foldl (fun host chunk => handler chunk host) host⟩
  /-- The device has accepted what the buffer holds. -/
  written : file.writer.written = d.written ++ buffer.bytes
  /-- There is no error to take, and there was no warning. -/
  no_error : file.takeError.1 = none
  no_warning : ∀ event ∈ events, event.level ≠ .warn
  /-- The device was given the chunks, one after another. -/
  attempted : file.writer = (d.attemptAll chunks).2
  /-- A chunk takes so many calls, each of which comes to the next outcome of the script, and no more
  than it has bytes and comes to interruptions. -/
  calls_le : ∀ (i : ℕ) chunk, chunks[i]? = some chunk → ∃ n,
    ((d.attemptAll (chunks.take i)).2.writeAll chunk).2.calls =
      (d.attemptAll (chunks.take i)).2.calls + n ∧
    ((d.attemptAll (chunks.take i)).2.writeAll chunk).2.script =
      (d.attemptAll (chunks.take i)).2.script.drop n ∧
    n ≤ chunk.length +
      ((d.attemptAll (chunks.take i)).2.script.take n).countP Outcome.isInterruption

/-- All sinks take up the same bytes. -/
theorem backends_agree (session : Session) {d : ScriptedDevice} (hd : d.Steady)
    (handler : Bytes → τ → τ) (host : τ) :
    ∃ buffer callback file events,
      (session.run Buffer.sink Buffer.empty).1 = some buffer ∧
      (session.run Callback.sink ⟨some handler, host⟩).1 = some callback ∧
      session.run (WriterSink.sink ScriptedDevice.writer) ⟨d, none⟩ = (some file, events) ∧
      Agree session.chunks handler host d buffer callback file events := by
  have hbuffer : (Buffer.sink.receiveAll session.calls Buffer.empty).1.bytes =
      session.chunks.flatten :=
    Buffer.bytes_receiveAll session.calls Buffer.empty
  have hfile : (session.run (WriterSink.sink ScriptedDevice.writer) ⟨d, none⟩).1 =
      some ⟨(d.attemptAll session.chunks).2, none⟩ := by
    rw [fst_run, WriterSink.receiveAll_of_steady session.calls hd]
    rfl
  refine ⟨_, _, _, _, fst_run session Buffer.sink Buffer.empty,
    fst_run session Callback.sink ⟨some handler, host⟩, Prod.ext hfile rfl, ?_⟩
  exact {
    buffered := hbuffer
    handed := Callback.receiveAll_attached handler session.calls host
    written := by rw [hbuffer, ScriptedDevice.written_of_steady session.chunks hd]
    no_error := rfl
    no_warning := session.level_ne_warn_of_steady hd
    attempted := rfl
    calls_le := fun i chunk _ => ScriptedDevice.exists_calls chunk _ }

/-- A device that accepts one byte, then none for an interruption, then at most two, cuts the first
texts of a session into pieces. -/
theorem backends_agree_in_pieces :
    let session : Session :=
      ⟨[.text "abc", .bytes [0xFF], .text ""], "main", [.error (.borrowed "odd") ⟨0, 1, 2⟩]⟩
    let d : ScriptedDevice :=
      { script := [.acceptUpTo 1, .fail (.reported .interrupted "again"), .acceptUpTo 2] }
    d.Steady ∧ ∃ buffer callback file events,
      (session.run Buffer.sink Buffer.empty).1 = some buffer ∧
      (session.run Callback.sink Callback.collector).1 = some callback ∧
      session.run (WriterSink.sink ScriptedDevice.writer) ⟨d, none⟩ = (some file, events) ∧
      Agree session.chunks (fun chunk chunks => chunks ++ [chunk]) [] d buffer callback file
        events := by
  intro session d
  have hd : d.Steady := by decide
  exact ⟨hd, backends_agree session hd (fun chunk chunks => chunks ++ [chunk]) []⟩

end Session

end ShaderDiagnostics
