import ShaderDiagnostics.Device.Writer
import ShaderDiagnostics.Sink.Basic
/-!
# Sinks over a writer

A sink that passes each chunk of bytes to a writer. A failed write does not stop the sink: every
failure is reported as an event, and the first one is kept until it is taken
(`WriterSink.takeError`).
-/

namespace ShaderDiagnostics

/-- A writer in a state of type `ω` together with the first error not yet taken. -/
structure WriterSink (ω : Type) where
  writer : ω
  error : Option IoError := none

namespace WriterSink

variable {ω : Type}

/-- Pass a chunk to the writer. -/
def put (W : Writer ω) (chunk : Bytes) (s : WriterSink ω) : WriterSink ω × List Event :=
  match W.writeAll chunk s.writer with
  | (none, writer) => ({ s with writer }, [])
  | (some e, writer) =>
    (⟨writer, s.error.or (some e)⟩, [.writeFailed e chunk.length])

/-- Writers as a sink. -/
def sink (W : Writer ω) : Sink (WriterSink ω) :=
  .ofBytes (put W)

/-- Flush the writer; what comes of it is the caller's and is not kept. -/
def flush (W : Writer ω) (s : WriterSink ω) : Option IoError × WriterSink ω :=
  let (error, writer) := W.flush s.writer
  (error, { s with writer })

/-- The first error since the last time, which is then forgotten. -/
def takeError (s : WriterSink ω) : Option IoError × WriterSink ω :=
  (s.error, { s with error := none })

/-- An error is taken once. -/
theorem takeError_takeError (s : WriterSink ω) : s.takeError.2.takeError.1 = none :=
  rfl

/-- The text of a sink for a developer: the error it keeps, and nothing of the writer. -/
def inspect (s : WriterSink ω) : String :=
  let error :=
    match s.error with
    | none => "None"
    | some e => "Some(" ++ e.inspect ++ ")"
  "FileSink \x7b error: " ++ error ++ ", .. \x7d"

end WriterSink

end ShaderDiagnostics
