import ShaderDiagnostics.Device.Writer
/-!
# Scripted devices

A device whose answers are laid down in advance: each call of `ScriptedDevice.write` takes the next
outcome of a script, and after the end of the script every call accepts all it is given. Flushes have
a script of their own. A device counts the calls and keeps the bytes it accepted.

`ScriptedDevice.writeAll` calls it until everything is accepted, tries again after an interruption,
and gives up on any other error or when nothing is accepted. It ends, since each call uses up an
outcome or, at the end of the script, all the bytes.
-/

namespace ShaderDiagnostics

/-! ## Outcomes -/

/-- What a call of a device does. -/
inductive Outcome where
  /-- It accepts all bytes. -/
  | acceptAll
  /-- It accepts at most so many bytes. -/
  | acceptUpTo (limit : Nat)
  /-- It accepts nothing and reports an error. -/
  | fail (error : IoError)
  deriving DecidableEq

/-- The number of bytes that an outcome accepts of `count`. -/
def Outcome.accepted (count : Nat) : Outcome → Except IoError Nat
  | acceptAll => .ok count
  | acceptUpTo limit => .ok (min limit count)
  | fail error => .error error

/-! ## The device -/

/-- A device that follows a script. -/
structure ScriptedDevice where
  /-- The outcomes of the calls to come. -/
  script : List Outcome
  /-- The errors of the flushes to come, with none for a flush that ends well. -/
  flushScript : List (Option IoError) := []
  /-- The error that every flush after the end of its script ends with, if any. -/
  flushError : Option IoError := none
  /-- The bytes accepted so far. -/
  written : Bytes := []
  /-- The number of calls of `write` so far. -/
  calls : Nat := 0
  /-- The number of flushes so far. -/
  flushes : Nat := 0

namespace ScriptedDevice

/-- The outcome of the next call. -/
def nextOutcome (d : ScriptedDevice) : Outcome :=
  d.script.headD .acceptAll

/-- One call: the number of bytes accepted, or an error. -/
def write (bytes : Bytes) (d : ScriptedDevice) : Except IoError Nat × ScriptedDevice :=
  let d' := { d with script := d.script.tail, calls := d.calls + 1 }
  match d.nextOutcome.accepted bytes.length with
  | .ok count => (.ok count, { d' with written := d.written ++ bytes.take count })
  | .error e => (.error e, d')

/-- A call uses up the next outcome. -/
theorem script_write (bytes : Bytes) (d : ScriptedDevice) :
    (d.write bytes).2.script = d.script.tail := by
  unfold write
  split <;> rfl

/-- At the end of the script a call accepts everything. -/
theorem write_of_script_nil (bytes : Bytes) (d : ScriptedDevice) (h : d.script = []) :
    (d.write bytes).1 = .ok bytes.length := by
  simp [write, nextOutcome, h, Outcome.accepted]

/-! ## Writing everything -/

/-- Call the device until it has accepted all the bytes. -/
def writeAll (bytes : Bytes) (d : ScriptedDevice) : Option IoError × ScriptedDevice :=
  if bytes = [] then (none, d)
  else
    match h : d.write bytes with
    | (.ok 0, d') => (some .nothingAccepted, d')
    | (.ok (count + 1), d') => writeAll (bytes.drop (count + 1)) d'
    | (.error e, d') => if e.isInterruption then writeAll bytes d' else (some e, d')
termination_by d.script.length + bytes.length
decreasing_by
  · have hs : d'.script = d.script.tail := by simpa [h] using script_write bytes d
    have hb : bytes.length ≠ 0 := by simpa using ‹¬bytes = []›
    simp only [hs, List.length_tail, List.length_drop]
    omega
  · have hs : d'.script = d.script.tail := by simpa [h] using script_write bytes d
    have hn : d.script ≠ [] := by
      intro hn
      have := write_of_script_nil bytes d hn
      simp [h] at this
    have : d.script.length ≠ 0 := by simpa using hn
    simp only [hs, List.length_tail]
    omega

/-- Count a flush and end it as laid down. -/
def flush (d : ScriptedDevice) : Option IoError × ScriptedDevice :=
  (d.flushScript.headD d.flushError,
    { d with flushScript := d.flushScript.tail, flushes := d.flushes + 1 })

/-- Scripted devices as writers. -/
def writer : Writer ScriptedDevice where
  writeAll := writeAll
  flush := flush

end ScriptedDevice

end ShaderDiagnostics
