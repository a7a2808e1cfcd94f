import ShaderDiagnostics.Text.Quoted
/-!
# Input and output errors

Why a file could not be opened or bytes could not be written. An error has a *kind*, which a caller
may act on, and a message. Devices report errors of their own with any kind and wording; the
operating system has numbered conditions; two errors come from the writing loop and from the form
of a path.
-/

namespace ShaderDiagnostics

namespace IoError

/-! ## Kinds -/

/-- The kind of an error, known by its name. -/
structure Kind where
  name : String
  deriving DecidableEq

/-- An operation was broken off before it did anything and may be tried again. -/
def Kind.interrupted : Kind := ⟨"Interrupted"⟩

/-- A device accepts no more bytes. -/
def Kind.writeZero : Kind := ⟨"WriteZero"⟩

/-- A value has a form that no operation takes. -/
def Kind.invalidInput : Kind := ⟨"InvalidInput"⟩

/-! ## Conditions of the operating system -/

/-- A numbered condition of the operating system. -/
inductive Condition where
  | notFound
  | notADirectory
  | isADirectory
  | storageFull
  | nameTooLong
  deriving DecidableEq

namespace Condition

/-- The number of a condition. -/
def number : Condition → Nat
  | notFound => 2
  | notADirectory => 20
  | isADirectory => 21
  | storageFull => 28
  | nameTooLong => 36

/-- The kind of a condition. -/
def kind : Condition → Kind
  | notFound => ⟨"NotFound"⟩
  | notADirectory => ⟨"NotADirectory"⟩
  | isADirectory => ⟨"IsADirectory"⟩
  | storageFull => ⟨"StorageFull"⟩
  | nameTooLong => ⟨"InvalidFilename"⟩

/-- The wording of a condition. -/
def description : Condition → String
  | notFound => "No such file or directory"
  | notADirectory => "Not a directory"
  | isADirectory => "Is a directory"
  | storageFull => "No space left on device"
  | nameTooLong => "File name too long"

end Condition

end IoError

/-! ## Errors -/

/-- An input or output error. -/
inductive IoError where
  /-- An error that a device reports in its own words. -/
  | reported (kind : IoError.Kind) (message : String)
  /-- A device took none of the bytes it was given. -/
  | nothingAccepted
  /-- A path holds the character NUL, which ends a path for the operating system. -/
  | nulInPath
  /-- The operating system refuses. -/
  | system (condition : IoError.Condition)
  deriving DecidableEq

namespace IoError

/-- The kind of an error. -/
def kind : IoError → Kind
  | reported kind _ => kind
  | nothingAccepted => .writeZero
  | nulInPath => .invalidInput
  | system condition => condition.kind

/-- Whether the operation that failed may be tried again. -/
def isInterruption (e : IoError) : Bool :=
  e.kind == .interrupted

/-- The message of an error. -/
def message : IoError → String
  | reported _ message => message
  | nothingAccepted => "failed to write whole buffer"
  | nulInPath => "file name contained an unexpected NUL byte"
  | system condition =>
    condition.description ++ " (os error " ++ Numeral.decimal condition.number ++ ")"

/-- The parts of an error by name, for a developer. -/
def inspect : IoError → String
  | reported kind message =>
    "Custom \x7b kind: " ++ kind.name ++ ", error: " ++ Text.quote message ++ " \x7d"
  | system condition =>
    "Os \x7b code: " ++ Numeral.decimal condition.number ++ ", kind: " ++ condition.kind.name ++
      ", message: " ++ Text.quote condition.description ++ " \x7d"
  | e =>
    "Error \x7b kind: " ++ e.kind.name ++ ", message: " ++ Text.quote e.message ++
      " \x7d"

end IoError

end ShaderDiagnostics
