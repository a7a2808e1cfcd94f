import ShaderDiagnostics.Diagnostic
import ShaderDiagnostics.Sink.Basic
import ShaderDiagnostics.SourceTable
import ShaderDiagnostics.Twine.Writing
/-!
# The diagnostic registry

A registry knows the sources of a compilation, writes its diagnostics to a sink and remembers
whether there was an error. Without a sink nothing is written, and errors are remembered all the
same. An error is remembered before anything is written, and for good.

Each operation gives the new registry and the events it reports, oldest first.
-/

namespace ShaderDiagnostics

/-- The state of a registry whose sink has states of type `σ`. -/
structure Registry (σ : Type) where
  sources : SourceTable
  /-- The state of the sink, if there is one. -/
  sink : Option σ
  /-- Whether an error has been reported, so that the compilation has failed. -/
  failed : Bool := false

namespace Registry

variable {σ : Type}

/-! ## Making -/

/-- The registry of a compilation with a sink that may be absent. -/
def new (sink : Option σ) (primary : String) : Registry σ :=
  { sources := ⟨primary, []⟩, sink }

/-- Whether output goes anywhere. -/
def hasSink (r : Registry σ) : Bool :=
  r.sink.isSome

/-! ## Sources -/

/-- The id of a source name, which is added if it is new. -/
def register (name : String) (r : Registry σ) : UInt32 × Registry σ × List Event :=
  match r.sources.id? name with
  | some id => (id, r, [])
  | none =>
    let id := r.sources.nextId
    (id, { r with sources := r.sources.push name }, [.registeredSource id name])

/-- The name of a source id. -/
def nameOf (id : UInt32) (r : Registry σ) : String :=
  r.sources.nameOf id

/-! ## Diagnostics -/

/-- The diagnostic of a message at a location, as the sources stand. -/
def diagnostic (severity : String) (message : Twine) (l : Location) (r : Registry σ) :
    Diagnostic :=
  { source := r.sources.nameOf l.source, position := Diagnostic.positionOf l, severity, message }

/-- Write a diagnostic with any severity. This never counts as an error. -/
def print (S : Sink σ) (severity : String) (message : Twine) (l : Location) (r : Registry σ) :
    Registry σ × List Event :=
  match r.sink with
  | none => (r, [])
  | some s =>
    let (s, events) := (r.diagnostic severity message l).line.writeTo S s
    ({ r with sink := some s }, .printing severity l :: events)

/-- Remember that there was an error. -/
def noteError (l : Location) (r : Registry σ) : Registry σ × List Event :=
  ({ r with failed := true }, if r.failed then [] else [.firstError l])

/-- Report an error. -/
def reportError (S : Sink σ) (message : Twine) (l : Location) (r : Registry σ) :
    Registry σ × List Event :=
  let (r, events) := r.noteError l
  let (r, more) := r.print S Diagnostic.error message l
  (r, events ++ more)

/-- After an error, the compilation has failed, with a sink and without. -/
theorem failed_reportError (S : Sink σ) (message : Twine) (l : Location) (r : Registry σ) :
    (r.reportError S message l).1.failed = true := by
  simp only [reportError, noteError, print]
  split <;> rfl

/-- Report a warning. -/
def reportWarning (S : Sink σ) (message : Twine) (l : Location) (r : Registry σ) :
    Registry σ × List Event :=
  r.print S Diagnostic.warning message l

/-! ## Text -/

/-- The text of a truth value. -/
def flagText (b : Bool) : String :=
  if b then "true" else "false"

/-- The text of a registry for a developer. -/
def inspect (r : Registry σ) : String :=
  "DiagnosticRegistry \x7b has_sink: " ++ flagText r.hasSink ++ ", sources: " ++
    Text.quoteAll r.sources.names ++ ", has_errors: " ++ flagText r.failed ++ " \x7d"

end Registry

end ShaderDiagnostics
