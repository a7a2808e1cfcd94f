import ShaderDiagnostics.Registry.Basic
/-!
# Runs of a registry

The operations of a registry as data, each with its answer, and runs of any number of them.
-/

namespace ShaderDiagnostics

/-- An operation of a registry. -/
inductive Operation where
  | register (name : String)
  | nameOf (id : UInt32)
  | names
  | hasSink
  | print (severity : String) (message : Twine) (location : Location)
  | error (message : Twine) (location : Location)
  | warning (message : Twine) (location : Location)

/-- What an operation answers. -/
inductive Answer where
  | id (id : UInt32)
  | name (name : String)
  | names (names : List String)
  | flag (value : Bool)
  /-- The operation is done and has nothing to tell. -/
  | done
  deriving DecidableEq

namespace Registry

variable {σ : Type}

/-- The answer of an operation, the registry after it and the events it reports. -/
def step (S : Sink σ) (r : Registry σ) : Operation → Answer × Registry σ × List Event
  | .register name =>
    let (id, r, events) := r.register name
    (.id id, r, events)
  | .nameOf id => (.name (r.nameOf id), r, [])
  | .names => (.names r.sources.names, r, [])
  | .hasSink => (.flag r.hasSink, r, [])
  | .print severity message l => (.done, r.print S severity message l)
  | .error message l => (.done, r.reportError S message l)
  | .warning message l => (.done, r.reportWarning S message l)

/-- The answers of a row of operations, the registry after them and the events they report. -/
def run (S : Sink σ) (r : Registry σ) : List Operation → List Answer × Registry σ × List Event
  | [] => ([], r, [])
  | op :: rest =>
    let (answer, r, events) := r.step S op
    let (answers, r, more) := r.run S rest
    (answer :: answers, r, events ++ more)

end Registry

end ShaderDiagnostics
