import ShaderDiagnostics.Proofs.Sink.Calls
import ShaderDiagnostics.Sink.Handle
import ShaderDiagnostics.Sink.Recorder
/-!
# Writing through handles

A stack of handles is one handle as far as a sink can tell: what reaches the sink are the bytes of
each call, chunk by chunk, and no call as text (`Sink.receiveAll_through`). What arrives at a sink is
seen by watching it (`Sink.received`), which changes nothing (`Sink.receiveAll_watched`). A sink that
looks at bytes alone is left the same with handles and without them, and a buffer, a callback and a
sink over a writer are such sinks (`Sink.passesOn_through`).
-/

namespace ShaderDiagnostics

/-! ## Calls as bytes -/

/-- A call with the same bytes that does not say whether they are text. -/
def Call.asBytes (call : Call) : Call :=
  .bytes call.payload

/-- Calls that are taken as bytes carry the same chunks. -/
theorem Call.map_payload_asBytes (calls : List Call) :
    (calls.map Call.asBytes).map Call.payload = calls.map Call.payload := by
  simp [Call.asBytes, Call.payload]

namespace Sink

variable {σ : Type} (S : Sink σ)

/-! ## Stacks of handles -/

/-- The innermost sink receives each call as bytes, whatever handles there are and however many. -/
theorem receive_through (outer : Handle) (inner : List Handle) (call : Call) :
    (S.through (outer :: inner)).receive call = S.receive call.asBytes := by
  induction inner generalizing outer call with
  | nil => exact S.receive_behind outer call
  | cons handle inner ih =>
      show ((S.through (handle :: inner)).behind outer).receive call = _
      -- once a call is bytes, the handles below leave it as it is
      rw [receive_behind, ih]
      rfl

/-- Behind handles, a row of calls is the same row as bytes. -/
theorem receiveAll_through (outer : Handle) (inner : List Handle) (calls : List Call) (s : σ) :
    (S.through (outer :: inner)).receiveAll calls s = S.receiveAll (calls.map Call.asBytes) s := by
  induction calls generalizing s with
  | nil => rfl
  | cons call calls ih => simp only [receiveAll, List.map_cons, receive_through, ih]

/-! ## What arrives -/

/-- The calls that the innermost sink receives while things are written to it through handles. -/
def received (handles : List Handle) (writes : List Write) (s : σ) : List Call :=
  (Write.performAll (S.watched.through handles) writes (s, [])).1.2

/-- Without handles, a sink receives the calls of the writes. -/
theorem received_nil (writes : List Write) (s : σ) :
    S.received [] writes s = writes.flatMap Write.calls := by
  rw [received, Write.performAll_eq_receiveAll, through, receiveAll_watched, List.nil_append]

/-- Behind handles, a sink receives the calls of the writes as bytes. -/
theorem received_cons (outer : Handle) (inner : List Handle) (writes : List Write) (s : σ) :
    S.received (outer :: inner) writes s = (writes.flatMap Write.calls).map Call.asBytes := by
  rw [received, Write.performAll_eq_receiveAll, receiveAll_through, receiveAll_watched,
    List.nil_append]

/-- Writing through handles is making the calls that are received. -/
theorem performAll_through (handles : List Handle) (writes : List Write) (s : σ) :
    Write.performAll (S.through handles) writes s =
      S.receiveAll (S.received handles writes s) s := by
  rw [Write.performAll_eq_receiveAll]
  cases handles with
  | nil => rw [received_nil, through]
  | cons outer inner => rw [received_cons, receiveAll_through]

/-! ## Sinks that look at bytes -/

/-- The sink makes no difference between text and its bytes. -/
def LooksAtBytes (S : Sink σ) : Prop :=
  ∀ call, S.receive call.asBytes = S.receive call

/-- A sink that treats text as its bytes looks at nothing else. -/
theorem looksAtBytes_ofBytes (put : Bytes → σ → σ × List Event) : (ofBytes put).LooksAtBytes :=
  fun _ => rfl

variable {S}

/-- A sink that looks at bytes does the same with a row of calls and with their bytes. -/
theorem LooksAtBytes.receiveAll_map (h : S.LooksAtBytes) (calls : List Call) (s : σ) :
    S.receiveAll (calls.map Call.asBytes) s = S.receiveAll calls s := by
  induction calls generalizing s with
  | nil => rfl
  | cons call calls ih => simp only [receiveAll, List.map_cons, h call, ih]

/-- A sink that looks at bytes alone does not notice handles. -/
theorem LooksAtBytes.performAll_through (h : S.LooksAtBytes) (handles : List Handle)
    (writes : List Write) (s : σ) :
    Write.performAll (S.through handles) writes s = Write.performAll S writes s := by
  cases handles with
  | nil => rfl
  | cons outer inner =>
      rw [Write.performAll_eq_receiveAll, Write.performAll_eq_receiveAll, receiveAll_through,
        h.receiveAll_map]

/-! ## With handles and without -/

/-- What handles make of a row of writes to the sink `S` in the state `s`. -/
structure PassesOn (S : Sink σ) (handles : List Handle) (writes : List Write) (s : σ) : Prop where
  /-- The sink receives the same chunks as without handles, empty ones too, in the same order. -/
  payloads : (S.received handles writes s).map Call.payload =
    (S.received [] writes s).map Call.payload
  /-- Every call arrives as bytes. -/
  as_bytes : ∀ call ∈ S.received handles writes s, ∃ chunk, call = .bytes chunk
  /-- The sink is left as by these calls, and reports what they report. -/
  outcome : Write.performAll (S.through handles) writes s =
    S.receiveAll (S.received handles writes s) s
  /-- Without handles, the sink receives the calls of the writes. -/
  direct : S.received [] writes s = writes.flatMap Write.calls

/-- A row of writes leaves the sinks of the library the same, and lets them report the same, with
handles and without. -/
structure Unnoticed (handles : List Handle) (writes : List Write) : Prop where
  buffer : ∀ buffer, Write.performAll (Buffer.sink.through handles) writes buffer =
    Write.performAll Buffer.sink writes buffer
  callback : ∀ {τ : Type} (callback : Callback τ),
    Write.performAll (Callback.sink.through handles) writes callback =
      Write.performAll Callback.sink writes callback
  /-- This goes for every writer, and for the error that is kept as well. -/
  file : ∀ {ω : Type} (W : Writer ω) (file : WriterSink ω),
    Write.performAll ((WriterSink.sink W).through handles) writes file =
      Write.performAll (WriterSink.sink W) writes file

/-- **One handle or more pass on the bytes of every call and nothing else**, in whatever order they
are stacked and whatever the innermost sink does. -/
theorem passesOn_through (S : Sink σ) (outer : Handle) (inner : List Handle) (writes : List Write)
    (s : σ) : PassesOn S (outer :: inner) writes s ∧ Unnoticed (outer :: inner) writes := by
  constructor
  · refine ⟨?_, ?_, performAll_through S _ writes s, received_nil S writes s⟩
    · rw [received_cons, received_nil, Call.map_payload_asBytes]
    · intro call hcall
      rw [received_cons] at hcall
      obtain ⟨sent, -, rfl⟩ := List.mem_map.mp hcall
      exact ⟨sent.payload, rfl⟩
  · constructor
    case buffer =>
      intro buffer
      apply LooksAtBytes.performAll_through
      exact looksAtBytes_ofBytes _
    case callback =>
      intro τ callback
      apply LooksAtBytes.performAll_through
      exact looksAtBytes_ofBytes _
    case file =>
      intro ω W file
      apply LooksAtBytes.performAll_through
      exact looksAtBytes_ofBytes _

/-- An empty text is a chunk of its own. -/
example :
    (Write.performAll (recorder.through [.box, .reference])
      [.text "", .twine (.node (.borrowed "a") (.node .empty (.owned "b")))] []).1 =
      [.bytes [], .bytes [0x61], .bytes [0x62]] := by
  decide

end Sink

end ShaderDiagnostics
