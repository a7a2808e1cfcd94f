import ShaderDiagnostics.Sink.Buffer
import ShaderDiagnostics.Sink.Callback
import ShaderDiagnostics.Sink.OverWriter
import ShaderDiagnostics.Twine.Writing
/-!
# Writes

What a user of a sink may write, a text, bytes or a twine, as data (`Write`), and rows of writes.
For buffers and for sinks over a writer, the other operations stand beside the writes, so that whole
histories can be run.
-/

namespace ShaderDiagnostics

/-! ## Writes -/

/-- Something to write to a sink. -/
inductive Write where
  | text (content : String)
  | bytes (content : Bytes)
  | twine (content : Twine)

namespace Write

variable {σ : Type}

/-- Write to a sink. -/
def perform (S : Sink σ) : Write → σ → σ × List Event
  | text content => S.receive (.text content)
  | bytes content => S.receive (.bytes content)
  | twine content => content.writeTo S

/-- Write a row of things to a sink. -/
def performAll (S : Sink σ) : List Write → σ → σ × List Event
  | [], s => (s, [])
  | write :: rest, s =>
    let (s, events) := write.perform S s
    let (s, more) := performAll S rest s
    (s, events ++ more)

end Write

/-! ## Histories of a buffer -/

namespace Buffer

/-- An operation that changes a buffer. -/
inductive Operation where
  | write (content : Write)
  | clear

/-- The buffer after an operation. -/
def step (buffer : Buffer) : Operation → Buffer
  | .write content => (content.perform sink buffer).1
  | .clear => buffer.clear

/-- The buffer after a row of operations. -/
def run (buffer : Buffer) (ops : List Operation) : Buffer :=
  ops.foldl step buffer

end Buffer

/-! ## Histories of a sink over a writer -/

namespace WriterSink

variable {ω : Type}

/-- An operation of a sink over a writer. -/
inductive Operation where
  | write (content : Write)
  | flush
  | takeError

/-- What an operation answers. -/
inductive Answer where
  /-- A write answers nothing. -/
  | done
  /-- How a flush ended. -/
  | flushed (error : Option IoError)
  /-- The error that was kept. -/
  | taken (error : Option IoError)
  deriving DecidableEq

/-- The answer of an operation, the sink after it and the events it reports. -/
def step (W : Writer ω) (s : WriterSink ω) : Operation → Answer × WriterSink ω × List Event
  | .write content => (.done, content.perform (sink W) s)
  | .flush =>
    let (error, s) := s.flush W
    (.flushed error, s, [])
  | .takeError =>
    let (error, s) := s.takeError
    (.taken error, s, [])

/-- The answers of a row of operations, the sink after them and the events they report. -/
def run (W : Writer ω) (s : WriterSink ω) :
    List Operation → List Answer × WriterSink ω × List Event
  | [] => ([], s, [])
  | op :: rest =>
    let (answer, s, events) := s.step W op
    let (answers, s, more) := s.run W rest
    (answer :: answers, s, events ++ more)

end WriterSink

end ShaderDiagnostics
