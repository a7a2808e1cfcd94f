import ShaderDiagnostics.Sink.Basic
/-!
# Callbacks

A sink that hands each chunk of bytes to a function of the host, an empty chunk too. Without a
function it drops everything.
-/

namespace ShaderDiagnostics

/-- A function of the host with the host's state, of type `τ`. -/
structure Callback (τ : Type) where
  /-- What the host does with a chunk. -/
  handler : Option (Bytes → τ → τ)
  host : τ

namespace Callback

variable {τ : Type}

/-- Whether there is a function to call. -/
def isAttached (c : Callback τ) : Bool :=
  c.handler.isSome

/-- Hand a chunk to the host. -/
def call (chunk : Bytes) (c : Callback τ) : Callback τ :=
  match c.handler with
  | some handler => { c with host := handler chunk c.host }
  | none => c

/-- Callbacks as a sink. -/
def sink : Sink (Callback τ) :=
  .ofBytes fun chunk c => (c.call chunk, [])

/-- The text of a callback for a developer. -/
def inspect (c : Callback τ) : String :=
  "CallbackSink \x7b attached: " ++ (if c.isAttached then "true" else "false") ++ " \x7d"

/-- The host that keeps every chunk, in order. -/
def collector : Callback (List Bytes) :=
  ⟨some fun chunk chunks => chunks ++ [chunk], []⟩

/-- No function, hence nothing kept. -/
def detached : Callback (List Bytes) :=
  ⟨none, []⟩

/-- Without a function, a chunk is dropped. -/
theorem call_detached (chunk : Bytes) : detached.call chunk = detached :=
  rfl

end Callback

end ShaderDiagnostics
