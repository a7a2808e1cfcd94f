import ShaderDiagnostics.Sink.Basic
/-!
# Sinks behind handles

A sink may be reached through handles, references and boxes, in any stack. A handle passes on the
bytes of a call only, so a sink behind at least one handle never learns which calls were text
(`Sink.receive_behind`).
-/

namespace ShaderDiagnostics

/-- A way of holding a sink. -/
inductive Handle where
  /-- A reference to a sink that someone else holds. -/
  | reference
  /-- A box that holds the sink itself. -/
  | box
  deriving DecidableEq

namespace Sink

variable {σ : Type}

/-- A sink as a handle shows it. -/
def behind (S : Sink σ) : Handle → Sink σ
  | .reference => .ofBytes fun bytes => S.receive (.bytes bytes)
  | .box => .ofBytes fun bytes => S.receive (.bytes bytes)

/-- A sink behind a stack of handles, the outermost one first. -/
def through (S : Sink σ) : List Handle → Sink σ
  | [] => S
  | handle :: inner => (S.through inner).behind handle

/-- A handle passes on the bytes of a call, whatever handle and whatever call it is. -/
theorem receive_behind (S : Sink σ) (handle : Handle) (call : Call) :
    (S.behind handle).receive call = S.receive (.bytes call.payload) := by
  cases handle <;> rfl

end Sink

end ShaderDiagnostics
