import ShaderDiagnostics.Sink.Basic
/-!
# Buffers

A sink in memory that keeps every byte, whether the bytes are text or not. `Buffer.bytes` shows what
a buffer holds; each call adds its bytes at the end (`bytes_receive`).
-/

namespace ShaderDiagnostics

/-- The bytes received so far. -/
structure Buffer where
  data : Array UInt8 := #[]
  deriving DecidableEq

namespace Buffer

/-- An empty buffer. -/
def empty : Buffer := {}

/-- What a buffer holds, oldest byte first. -/
def bytes (buffer : Buffer) : Bytes :=
  buffer.data.toList

/-! ## Receiving -/

/-- Add bytes at the end of a buffer. -/
def push (bytes : Bytes) (buffer : Buffer) : Buffer :=
  ⟨buffer.data.appendList bytes⟩

theorem bytes_push (bytes : Bytes) (buffer : Buffer) :
    (buffer.push bytes).bytes = buffer.bytes ++ bytes :=
  Array.toList_appendList

/-- Buffers as a sink: each call adds its bytes at the end. -/
def sink : Sink Buffer :=
  .ofBytes fun bytes buffer => (buffer.push bytes, [])

theorem bytes_receive (call : Call) (buffer : Buffer) :
    (sink.receive call buffer).1.bytes = buffer.bytes ++ call.payload :=
  bytes_push call.payload buffer

/-! ## Use -/

/-- A buffer after everything in it is forgotten. -/
def clear (_ : Buffer) : Buffer :=
  empty

/-- The number of bytes in a buffer. -/
def size (buffer : Buffer) : Nat :=
  buffer.data.size

/-- Whether a buffer holds nothing. -/
def isEmpty (buffer : Buffer) : Bool :=
  buffer.data.isEmpty

/-- The content of a buffer as text, with a replacement character for each broken part. -/
def text (buffer : Buffer) : String :=
  Utf8.decodeLossy buffer.bytes

end Buffer

end ShaderDiagnostics
