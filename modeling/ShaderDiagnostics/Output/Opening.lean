import ShaderDiagnostics.Sink.OverWriter
import ShaderDiagnostics.Volume.Basic
/-!
# Opening an output

Opening a destination gives the sink that diagnostics are written to, or tells which path could not
be opened and why. A silent destination has no sink.
-/

namespace ShaderDiagnostics

/-! ## Errors -/

/-- A path that could not be opened, with the reason. -/
structure OpenError where
  path : FilePath
  cause : IoError

/-- The message of an error. -/
def OpenError.message (e : OpenError) : String :=
  "cannot open diagnostic output `" ++ e.path.text ++ "`: " ++ e.cause.message

/-! ## Files -/

/-- A sink over a new or emptied file, buffered. -/
def WriterSink.create (v : Volume) (path : FilePath) : Except OpenError (WriterSink BufferedFile) :=
  match v.create path with
  | .ok file => .ok { writer := { file } }
  | .error cause => .error ⟨path, cause⟩

/-! ## Destinations -/

/-- What an open destination writes to. -/
inductive Output where
  | stderr
  | stdout
  | silent
  | file (sink : WriterSink BufferedFile)

/-- Open a destination on a volume, and report it unless nothing is opened. -/
def Destination.openOn (v : Volume) (destination : Destination) :
    Except OpenError (Output × List Event) :=
  match destination with
  | .stderr => .ok (.stderr, [.opened destination])
  | .stdout => .ok (.stdout, [.opened destination])
  | .silent => .ok (.silent, [])
  | .file path =>
    match WriterSink.create v path with
    | .ok sink => .ok (.file sink, [.opened destination])
    | .error e => .error e

end ShaderDiagnostics
