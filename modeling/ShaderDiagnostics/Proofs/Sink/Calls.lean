import ShaderDiagnostics.Sink.Write
/-!
# What is written, as calls

Whatever is written to a sink reaches it as a row of calls (`Write.calls`), one for each leaf of a
twine, and nothing else happens to the sink (`Write.perform_eq_receiveAll`,
`Write.performAll_eq_receiveAll`).
-/

namespace ShaderDiagnostics

variable {σ : Type}

/-- A row of texts carries the bytes of the texts in one. -/
theorem Call.payload_texts (texts : List String) :
    (texts.map Call.text).flatMap Call.payload = Utf8.encode (String.join texts) := by
  rw [List.flatMap_map, Utf8.encode, Utf8.encodeChars, String.toList_join, List.flatMap_assoc]
  rfl

/-- The calls that write a twine: one for each leaf that is not the empty twine. -/
def Twine.calls (t : Twine) : List Call :=
  t.pieces.map Call.text

/-- No leaf of a twine is refused by a sink: the rendering ends well, after all calls. -/
theorem Twine.runFrom_render_sink (S : Sink σ) (t : Twine) (s : σ) :
    (t.render S.textWriter).runFrom (s, []) = (.ok (), S.receiveAll t.calls s) := by
  rw [render_eq_forM, S.runFrom_textWriter, List.nil_append]
  rfl

/-- Writing a twine is making its calls, in order. -/
theorem Twine.writeTo_eq_receiveAll (S : Sink σ) (t : Twine) (s : σ) :
    t.writeTo S s = S.receiveAll t.calls s := by
  rw [writeTo, runFrom_render_sink]

namespace Write

/-- The calls that write something. -/
def calls : Write → List Call
  | text content => [.text content]
  | bytes content => [.bytes content]
  | twine content => content.calls

/-- Whatever is written reaches the sink as its calls, in order. -/
theorem perform_eq_receiveAll (S : Sink σ) (w : Write) (s : σ) :
    w.perform S s = S.receiveAll w.calls s := by
  cases w with
  | text content => exact (S.receiveAll_singleton (.text content) s).symm
  | bytes content => exact (S.receiveAll_singleton (.bytes content) s).symm
  | twine content => exact content.writeTo_eq_receiveAll S s

/-- A row of writes makes the calls of each in turn. -/
theorem performAll_eq_receiveAll (S : Sink σ) (writes : List Write) (s : σ) :
    performAll S writes s = S.receiveAll (writes.flatMap calls) s := by
  induction writes generalizing s with
  | nil => rfl
  | cons w writes ih =>
      rw [List.flatMap_cons, S.receiveAll_append, ← w.perform_eq_receiveAll, ← ih]
      rfl

/-- The chunks of bytes that write something, one for each call. -/
def chunks (w : Write) : List Bytes :=
  w.calls.map Call.payload

end Write

/-- A buffer takes up the bytes of all calls, in order. -/
theorem Buffer.bytes_receiveAll (calls : List Call) (buffer : Buffer) :
    (Buffer.sink.receiveAll calls buffer).1.bytes = buffer.bytes ++ calls.flatMap Call.payload := by
  induction calls generalizing buffer with
  | nil => exact (List.append_nil _).symm
  | cons call calls ih =>
      rw [Sink.receiveAll, ih, Buffer.bytes_receive, List.append_assoc, List.flatMap_cons]

end ShaderDiagnostics
