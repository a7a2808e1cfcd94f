import Mathlib
import ShaderDiagnostics.Proofs.Device.Attempts
/-!
# Devices that take everything in the end

A device is steady if no call to come ends a chunk early: each accepts something or is interrupted.
It takes every chunk as a whole, however its script cuts the chunks up, and is steady afterwards
(`ScriptedDevice.writeAll_of_steady`). On any device, a chunk costs at most one call for each of its
bytes and one for each interruption that it comes to (`ScriptedDevice.exists_calls`).
-/

namespace ShaderDiagnostics

/-! ## Outcomes -/

namespace Outcome

/-- Whether a call is broken off before it does anything. -/
def isInterruption : Outcome → Bool
  | acceptAll | acceptUpTo _ => false
  | fail error => error.isInterruption

/-- Whether the writing goes on after a call: it accepts something or is interrupted. -/
def isSteady : Outcome → Bool
  | acceptAll => true
  | acceptUpTo limit => 0 < limit
  | fail error => error.isInterruption

variable {outcome : Outcome} {count : ℕ}

/-- A steady outcome accepts something where there is something to accept. -/
theorem accepted_ne_zero (h : outcome.isSteady = true) (hcount : count ≠ 0) :
    outcome.accepted count ≠ .ok 0 := by
  cases outcome with
  | acceptAll => simpa [accepted] using hcount
  | acceptUpTo limit =>
      have hlimit : 0 < limit := of_decide_eq_true h
      simp only [accepted, ne_eq, Except.ok.injEq]
      omega
  | fail error =>
      intro h
      cases h

/-- Only an outcome that fails makes an error, and it makes its own. -/
theorem accepted_eq_error {error : IoError} (h : outcome.accepted count = .error error) :
    outcome = .fail error := by
  cases outcome with
  | acceptAll | acceptUpTo _ => cases h
  | fail other => cases h; rfl

end Outcome

namespace ScriptedDevice

/-! ## One call -/

/-- A call answers what the next outcome accepts. -/
theorem fst_write (bytes : Bytes) (d : ScriptedDevice) :
    (d.write bytes).1 = d.nextOutcome.accepted bytes.length := by
  unfold write
  split <;> exact Eq.symm ‹_›

/-- A call is counted and uses up an outcome. -/
theorem state_of_write {bytes : Bytes} {result : Except IoError ℕ} {d d' : ScriptedDevice}
    (h : d.write bytes = (result, d')) : d'.calls = d.calls + 1 ∧ d'.script = d.script.tail := by
  have hcalls : (d.write bytes).2.calls = d.calls + 1 := by
    unfold write
    split <;> rfl
  have hscript := script_write bytes d
  rw [h] at hcalls hscript
  exact ⟨hcalls, hscript⟩

/-- A call that fails takes its failure from the script. -/
theorem script_of_write_error {bytes : Bytes} {d d' : ScriptedDevice} {error : IoError}
    (h : d.write bytes = (.error error, d')) : d.script = .fail error :: d'.script := by
  have hnext : d.nextOutcome = .fail error :=
    Outcome.accepted_eq_error ((fst_write bytes d).symm.trans (congrArg Prod.fst h))
  obtain ⟨-, htail⟩ := state_of_write h
  rw [nextOutcome] at hnext
  cases hscript : d.script with
  | nil => rw [hscript] at hnext; cases hnext
  | cons outcome rest =>
      rw [hscript] at hnext htail
      rw [htail, ← hnext]
      rfl

/-! ## Steady devices -/

/-- No call to come ends the writing of a chunk early. -/
def Steady (d : ScriptedDevice) : Prop :=
  ∀ outcome ∈ d.script, outcome.isSteady = true

instance (d : ScriptedDevice) : Decidable d.Steady :=
  inferInstanceAs (Decidable (∀ outcome ∈ d.script, outcome.isSteady = true))

variable {d : ScriptedDevice}

/-- The next outcome of a steady device is a steady one. -/
theorem Steady.nextOutcome (h : d.Steady) : d.nextOutcome.isSteady = true := by
  unfold ScriptedDevice.nextOutcome
  cases hscript : d.script with
  | nil => rfl
  | cons outcome rest => exact h outcome (hscript ▸ List.mem_cons_self)

/-- A call leaves a steady device steady. -/
theorem Steady.after_write {bytes : Bytes} {result : Except IoError ℕ} {d' : ScriptedDevice}
    (h : d.Steady) (hw : d.write bytes = (result, d')) : d'.Steady := by
  intro outcome hmem
  exact h outcome (List.mem_of_mem_tail ((state_of_write hw).2 ▸ hmem))

/-- A steady device takes every chunk, and stays steady. -/
theorem writeAll_of_steady (bytes : Bytes) (h : d.Steady) :
    (d.writeAll bytes).1 = none ∧ (d.writeAll bytes).2.Steady := by
  fun_induction writeAll bytes d with
  | case1 d => exact ⟨rfl, h⟩
  | case2 bytes d hne d' hw =>
      have hzero := (fst_write bytes d).symm.trans (congrArg Prod.fst hw)
      have hlen : bytes.length ≠ 0 := by simpa using hne
      exact absurd hzero (Outcome.accepted_ne_zero h.nextOutcome hlen)
  | case3 bytes d hne count d' hw ih => exact ih (h.after_write hw)
  | case4 bytes d hne e d' hw hint ih => exact ih (h.after_write hw)
  | case5 bytes d hne e d' hw hint =>
      have hmem : Outcome.fail e ∈ d.script := script_of_write_error hw ▸ List.mem_cons_self
      exact absurd (h _ hmem) hint

/-! ## The number of calls -/

/-- Leaving the first outcome out leaves out no more than one interruption. -/
theorem countP_take_tail_le (script : List Outcome) (n : ℕ) :
    (script.tail.take n).countP Outcome.isInterruption ≤
      (script.take (n + 1)).countP Outcome.isInterruption := by
  cases script with
  | nil => simp
  | cons outcome rest => exact (List.sublist_cons_self outcome _).countP_le

/-- Each call uses up an outcome. A chunk takes a call for each of its bytes at most, and one more for
each interruption. -/
theorem exists_calls (bytes : Bytes) (d : ScriptedDevice) :
    ∃ n, (d.writeAll bytes).2.calls = d.calls + n ∧
      (d.writeAll bytes).2.script = d.script.drop n ∧
      n ≤ bytes.length + (d.script.take n).countP Outcome.isInterruption := by
  fun_induction writeAll bytes d with
  | case1 d => exact ⟨0, rfl, rfl, Nat.zero_le _⟩
  | case2 bytes d hne d' hw =>
      obtain ⟨hcalls, hscript⟩ := state_of_write hw
      have hlen : bytes.length ≠ 0 := by simpa using hne
      exact ⟨1, hcalls, hscript.trans List.drop_one.symm, by omega⟩
  | case3 bytes d hne count d' hw ih =>
      obtain ⟨hcalls, hscript⟩ := state_of_write hw
      obtain ⟨n, hn, hrest, hle⟩ := ih
      have hlen : bytes.length ≠ 0 := by simpa using hne
      have hcount := countP_take_tail_le d.script n
      rw [hscript, List.length_drop] at hle
      refine ⟨n + 1, by omega, ?_, by omega⟩
      rw [hrest, hscript, List.drop_tail]
  | case4 bytes d hne e d' hw hint ih =>
      obtain ⟨hcalls, -⟩ := state_of_write hw
      obtain ⟨n, hn, hrest, hle⟩ := ih
      have hscript := script_of_write_error hw
      -- The interruption stands first in the script, so it is one of the outcomes come to.
      have hcount : (Outcome.fail e).isInterruption = true := hint
      refine ⟨n + 1, by omega, ?_, ?_⟩
      · rw [hrest, hscript]
        rfl
      · rw [hscript, List.take_succ_cons, List.countP_cons_of_pos hcount]
        omega
  | case5 bytes d hne e d' hw hint =>
      obtain ⟨hcalls, hscript⟩ := state_of_write hw
      have hlen : bytes.length ≠ 0 := by simpa using hne
      exact ⟨1, hcalls, hscript.trans List.drop_one.symm, by omega⟩

/-! ## Chunks in a row -/

/-- A steady device takes a row of chunks without an error, and stays steady. -/
theorem attemptAll_of_steady (chunks : List Bytes) {d : ScriptedDevice} (h : d.Steady) :
    (∀ a ∈ (d.attemptAll chunks).1, a.error = none) ∧ (d.attemptAll chunks).2.Steady := by
  induction chunks generalizing d with
  | nil => exact ⟨fun _ hmem => absurd hmem List.not_mem_nil, h⟩
  | cons chunk rest ih =>
      obtain ⟨hnone, hsteady⟩ := writeAll_of_steady chunk h
      obtain ⟨hrest, hlast⟩ := ih hsteady
      refine ⟨?_, hlast⟩
      intro a hmem
      rcases List.mem_cons.mp hmem with rfl | hmem
      · exact hnone
      · exact hrest a hmem

/-- It accepts the whole row. -/
theorem written_of_steady (chunks : List Bytes) {d : ScriptedDevice} (h : d.Steady) :
    (d.attemptAll chunks).2.written = d.written ++ chunks.flatten := by
  have hall : (d.attemptAll chunks).1.map Attempt.accepted = chunks := by
    calc (d.attemptAll chunks).1.map Attempt.accepted
      _ = (d.attemptAll chunks).1.map Attempt.chunk := by
          apply List.map_congr_left
          intro a hmem
          exact (accepted_of_mem_attemptAll hmem).2 ((attemptAll_of_steady chunks h).1 a hmem)
      _ = chunks := map_chunk_attemptAll chunks d
  rw [written_attemptAll, List.flatMap_def, hall]

end ScriptedDevice

end ShaderDiagnostics
