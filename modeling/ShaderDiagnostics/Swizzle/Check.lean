import ShaderDiagnostics.Registry.Basic
import ShaderDiagnostics.Swizzle.Text
/-!
# Checking assignments through swizzles

An assignment through a swizzle is well formed if the swizzle can be read and selects no component
twice. `Swizzle.complaint?` says what is wrong, and `Registry.checkSwizzle` reports it as an error.
-/

namespace ShaderDiagnostics

/-- A swizzle to be checked: its kind, its text and where it stands. -/
structure Swizzle.Check where
  kind : Swizzle.Kind
  text : String
  location : Location

/-- The swizzle of a check, or why it cannot be read. -/
def Swizzle.Check.read (check : Swizzle.Check) : Except Swizzle.Error Swizzle :=
  Swizzle.ofText check.kind check.text

/-- What is wrong with assigning through a swizzle, if anything. -/
def Swizzle.complaint? : Except Swizzle.Error Swizzle → Option Twine
  | .error e => some (.owned e.message)
  | .ok s =>
    if s.isAssignable then none
    else some (.join [.borrowed "invalid write mask '.", .owned s.text, .borrowed "'"])

namespace Registry

variable {σ : Type}

/-- Read a swizzle that is assigned through and report what is wrong with it. -/
def checkSwizzle (S : Sink σ) (check : Swizzle.Check) (r : Registry σ) :
    Except Swizzle.Error Swizzle × Registry σ × List Event :=
  let read := check.read
  match Swizzle.complaint? read with
  | none => (read, r, [])
  | some message => (read, r.reportError S message check.location)

/-- Check a row of swizzles; the registry after it and the events it reports. -/
def checkSwizzles (S : Sink σ) : List Swizzle.Check → Registry σ → Registry σ × List Event
  | [], r => (r, [])
  | check :: rest, r =>
    let (_, r, events) := r.checkSwizzle S check
    let (r, more) := checkSwizzles S rest r
    (r, events ++ more)

end Registry

end ShaderDiagnostics
