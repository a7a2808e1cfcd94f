import ShaderDiagnostics.IoError
import ShaderDiagnostics.Location
import ShaderDiagnostics.Output.Destination
/-!
# Events

What the library reports of its own work, for a log. Each event has a level, a fixed message and
named fields.
-/

namespace ShaderDiagnostics

/-- How much an event matters. -/
inductive Event.Level where
  | trace
  | debug
  | warn
  deriving DecidableEq

/-- Something that happened while diagnostics were handled. -/
inductive Event where
  /-- A source name got an id. -/
  | registeredSource (id : UInt32) (name : String)
  /-- The first error of a compilation was reported. -/
  | firstError (location : Location)
  /-- A diagnostic is about to be written. -/
  | printing (severity : String) (location : Location)
  /-- A chunk of so many bytes could not be written. -/
  | writeFailed (error : IoError) (size : Nat)
  /-- An output was opened. -/
  | opened (destination : Destination)

namespace Event

/-! ## Parts of an event -/

/-- The name of a level. -/
def Level.name : Level → String
  | trace => "TRACE"
  | debug => "DEBUG"
  | warn => "WARN"

/-- The level of an event. -/
def level : Event → Level
  | registeredSource _ _ => .debug
  | firstError _ => .debug
  | printing _ _ => .trace
  | writeFailed _ _ => .warn
  | opened _ => .debug

/-- The message of an event. -/
def message : Event → String
  | registeredSource _ _ => "registered source"
  | firstError _ => "first error reported"
  | printing _ _ => "printing diagnostic"
  | writeFailed _ _ => "diagnostic output write failed"
  | opened _ => "opened diagnostic output"

/-- The fields of an event, each with its text. -/
def fields : Event → List (String × String)
  | registeredSource id name => [("id", Numeral.decimal id.toNat), ("name", name)]
  | firstError location => [("location", location.text)]
  | printing severity location => [("severity", severity), ("location", location.text)]
  | writeFailed error size => [("err", error.message), ("len", Numeral.decimal size)]
  | opened destination => [("output", destination.inspect)]

end Event

end ShaderDiagnostics
