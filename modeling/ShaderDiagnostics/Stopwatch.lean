/-!
# Timing

Durations of compiler passes on a monotonic clock. A clock shows the time since its first reading;
the instants it is read at come from outside and never decrease.
-/

namespace ShaderDiagnostics

/-- A clock that remembers the instant of its first reading. -/
structure Clock where
  epoch : Option Nat := none

/-- Read a clock at an instant: the time since the first reading. -/
def Clock.read (instant : Nat) (c : Clock) : Nat × Clock :=
  let epoch := c.epoch.getD instant
  (instant - epoch, ⟨some epoch⟩)

/-- Readings never decrease. -/
theorem Clock.read_mono {c : Clock} {a b : Nat} (h : a ≤ b) :
    (c.read a).1 ≤ ((c.read a).2.read b).1 := by
  simp only [read, Option.getD_some]
  omega

/-- A stopwatch, with the reading at which it was started. -/
structure Stopwatch where
  started : Nat

/-- The time on a stopwatch at a reading of the clock. -/
def Stopwatch.elapsed (s : Stopwatch) (reading : Nat) : Nat :=
  reading - s.started

end ShaderDiagnostics
