import Mathlib
import ShaderDiagnostics.Device.Scripted
/-!
# Attempts to write

What becomes of a chunk that a scripted device is to write as a whole: the device keeps the front of
the chunk, all of it unless an error is reported (`accepted_isPrefix`, `accepted_of_success`), and
leaves alone what it kept before (`written_writeAll`). No outcome of a script changes that.
-/

namespace ShaderDiagnostics

/-- What became of a chunk: the bytes that were accepted, and the error that stopped it, if any. -/
structure Attempt where
  chunk : Bytes
  accepted : Bytes
  error : Option IoError

namespace ScriptedDevice

/-! ## One call -/

/-- A call keeps as many bytes from the front as it says, and none if it fails. -/
theorem written_write (bytes : Bytes) (d : ScriptedDevice) :
    (d.write bytes).2.written =
      d.written ++ match (d.write bytes).1 with
        | .ok count => bytes.take count
        | .error _ => [] := by
  unfold write
  cases d.nextOutcome.accepted bytes.length with
  | ok count => rfl
  | error e => simp

/-! ## A whole chunk -/

/-- Whatever the outcomes, a prefix of the chunk is added, and all of it if no error is reported. -/
theorem exists_accepted (bytes : Bytes) (d : ScriptedDevice) :
    ∃ accepted, accepted <+: bytes ∧ (d.writeAll bytes).2.written = d.written ++ accepted ∧
      ((d.writeAll bytes).1 = none → accepted = bytes) := by
  fun_induction writeAll bytes d with
  | case1 d => exact ⟨[], List.prefix_rfl, (List.append_nil _).symm, fun _ => rfl⟩
  | case2 bytes d hne d' h =>
      -- nothing accepted: the chunk is given up with an error
      have hw := written_write bytes d
      rw [h] at hw
      exact ⟨[], List.nil_prefix, hw, fun hc => absurd hc (by simp)⟩
  | case3 bytes d hne count d' h ih =>
      -- a short accept: the rest follows
      have hw := written_write bytes d
      rw [h] at hw
      obtain ⟨accepted, hle, hwritten, hall⟩ := ih
      refine ⟨bytes.take (count + 1) ++ accepted, ?_, ?_, ?_⟩
      · obtain ⟨rest, hrest⟩ := hle
        exact ⟨rest, by rw [List.append_assoc, hrest, List.take_append_drop]⟩
      · rw [hwritten, hw, List.append_assoc]
      · intro hnone
        rw [hall hnone, List.take_append_drop]
  | case4 bytes d hne e d' h hint ih =>
      -- an interruption: the same bytes are tried again
      have hw := written_write bytes d
      rw [h, List.append_nil] at hw
      rw [hw] at ih
      exact ih
  | case5 bytes d hne e d' h hint =>
      have hw := written_write bytes d
      rw [h] at hw
      exact ⟨[], List.nil_prefix, hw, fun hc => absurd hc (by simp)⟩

/-- An attempt to write a chunk, as the device shows it. -/
def attempt (chunk : Bytes) (d : ScriptedDevice) : Attempt where
  chunk := chunk
  accepted := (d.writeAll chunk).2.written.drop d.written.length
  error := (d.writeAll chunk).1

/-- Writing a chunk adds what the attempt accepts. -/
theorem written_writeAll (chunk : Bytes) (d : ScriptedDevice) :
    (d.writeAll chunk).2.written = d.written ++ (d.attempt chunk).accepted := by
  obtain ⟨accepted, -, hwritten, -⟩ := exists_accepted chunk d
  rw [attempt, hwritten, List.drop_left]

theorem accepted_eq {chunk accepted : Bytes} {d : ScriptedDevice}
    (h : (d.writeAll chunk).2.written = d.written ++ accepted) :
    (d.attempt chunk).accepted = accepted := by
  rw [attempt, h, List.drop_left]

/-- What is accepted is the front of the chunk. -/
theorem accepted_isPrefix (chunk : Bytes) (d : ScriptedDevice) :
    (d.attempt chunk).accepted <+: (d.attempt chunk).chunk := by
  obtain ⟨accepted, hle, hwritten, -⟩ := exists_accepted chunk d
  rw [accepted_eq hwritten]
  exact hle

/-- A chunk is accepted as a whole unless an error is reported. -/
theorem accepted_of_success {chunk : Bytes} {d : ScriptedDevice}
    (h : (d.attempt chunk).error = none) : (d.attempt chunk).accepted = (d.attempt chunk).chunk := by
  obtain ⟨accepted, -, hwritten, hall⟩ := exists_accepted chunk d
  rw [accepted_eq hwritten]
  exact hall h

/-! ## Chunks in a row -/

/-- Give a row of chunks to a device, one after another, whatever becomes of them. -/
def attemptAll : List Bytes → ScriptedDevice → List Attempt × ScriptedDevice
  | [], d => ([], d)
  | chunk :: rest, d =>
      let (attempts, last) := attemptAll rest (d.writeAll chunk).2
      (d.attempt chunk :: attempts, last)

/-- Every chunk of a row is attempted, in order. -/
theorem map_chunk_attemptAll (chunks : List Bytes) (d : ScriptedDevice) :
    (d.attemptAll chunks).1.map Attempt.chunk = chunks := by
  induction chunks generalizing d with
  | nil => rfl
  | cons chunk rest ih => exact congrArg (chunk :: ·) (ih _)

/-- The device keeps the accepted parts, in order. -/
theorem written_attemptAll (chunks : List Bytes) (d : ScriptedDevice) :
    (d.attemptAll chunks).2.written =
      d.written ++ (d.attemptAll chunks).1.flatMap Attempt.accepted := by
  induction chunks generalizing d with
  | nil => exact (List.append_nil _).symm
  | cons chunk rest ih =>
      rw [show (d.attemptAll (chunk :: rest)).2 = ((d.writeAll chunk).2.attemptAll rest).2 from rfl,
        ih, written_writeAll, List.append_assoc]
      rfl

/-- Every attempt of a row keeps a front of its chunk. -/
theorem accepted_of_mem_attemptAll {chunks : List Bytes} {d : ScriptedDevice} {a : Attempt}
    (h : a ∈ (d.attemptAll chunks).1) :
    a.accepted <+: a.chunk ∧ (a.error = none → a.accepted = a.chunk) := by
  induction chunks generalizing d with
  | nil => exact absurd h List.not_mem_nil
  | cons chunk rest ih =>
      rcases List.mem_cons.mp h with rfl | hrest
      · exact ⟨accepted_isPrefix chunk d, accepted_of_success⟩
      · exact ih hrest

end ScriptedDevice

end ShaderDiagnostics
