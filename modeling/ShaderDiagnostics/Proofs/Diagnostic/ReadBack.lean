import Mathlib
import ShaderDiagnostics.Proofs.Decimal.Fractions
import ShaderDiagnostics.Proofs.Registry.Runs
import ShaderDiagnostics.Sink.Recorder
/-!
# Reading a diagnostic back

The line of a diagnostic is read from the left: the source up to a colon, a position if digits
follow and none if a blank does, the severity up to the next colon, and the message up to the end of
the line. A source without colons ends at the first one; of a source that is known it does not matter
what it looks like. So equal lines say the same (`Diagnostic.sameContent_of_line_eq`), in whatever
states of whatever registries they were written, and to whatever sinks (`Registry.written_unambiguous`).
What is written is what the sink of the registry receives; a registry without one writes no line.
-/

namespace ShaderDiagnostics

/-! ## Bytes and colons -/

/-- Different texts have different bytes. -/
theorem Utf8.encode_injective {a b : String} (h : encode a = encode b) : a = b := by
  have hbytes : a.toList.utf8Encode = b.toList.utf8Encode := congrArg List.toByteArray h
  rw [← String.toByteArray_ofList, ← String.toByteArray_ofList, String.toByteArray_inj,
    String.ofList_toList, String.ofList_toList] at hbytes
  exact hbytes

/-- What stands before the first `c` of a row, and what behind it, are known from the row. -/
theorem append_cons_inj {α : Type} [DecidableEq α] {c : α} {a b x y : List α} (ha : c ∉ a)
    (hb : c ∉ b) (h : a ++ c :: x = b ++ c :: y) : a = b ∧ x = y := by
  have hlen : a.length = b.length := by
    have hplace := congrArg (List.idxOf c) h
    rwa [List.idxOf_append_of_notMem ha, List.idxOf_append_of_notMem hb, List.idxOf_cons_self,
      List.idxOf_cons_self] at hplace
  obtain ⟨hab, hxy⟩ := List.append_inj h hlen
  exact ⟨hab, (List.cons.inj hxy).2⟩

namespace Diagnostic

/-! ## The parts of a line -/

/-- What stands behind the position, from the blank on. -/
def remark (severity message : List Char) : List Char :=
  ' ' :: severity ++ ':' :: ' ' :: message ++ ['\n']

/-- What stands behind the source and its colon. -/
def behindSource (l : Location) (severity message : List Char) : List Char :=
  if l = .unknown then remark severity message
  else
    Numeral.decimalDigits l.line.toNat ++ ':' ::
      (Numeral.decimalDigits l.column.toNat ++ ':' :: remark severity message)

/-- A line is the source, a colon and what stands behind it. -/
theorem toList_line (source severity message : String) (l : Location) :
    (source ++ positionText l ++ ": " ++ severity ++ ": " ++ message ++ "\n").toList =
      source.toList ++ ':' :: behindSource l severity.toList message.toList := by
  unfold positionText behindSource remark
  by_cases h : l = .unknown
  · rw [if_pos h, if_pos h]
    simp
  · rw [if_neg h, if_neg h]
    simp [Numeral.decimal]

/-! ## Reading the parts -/

/-- A severity without colons ends at the first one, so it is known from the line, and so is the
message. -/
theorem remark_inj {severity severity' message message' : List Char} (hs : ':' ∉ severity)
    (hs' : ':' ∉ severity') (h : remark severity message = remark severity' message') :
    severity = severity' ∧ message = message' := by
  unfold remark at h
  simp only [List.cons_append, List.append_assoc, List.cons.injEq, true_and] at h
  obtain ⟨hseverity, hrest⟩ := append_cons_inj hs hs' h
  exact ⟨hseverity, List.append_cancel_right (List.cons.inj hrest).2⟩

/-- A blank is no digit, so a line without a position does not go on like one with a position. -/
theorem remark_ne_digits (n : ℕ) (severity message rest : List Char) :
    remark severity message ≠ Numeral.decimalDigits n ++ rest := by
  intro h
  obtain ⟨c, digits, hdigits⟩ := List.exists_cons_of_ne_nil (Numeral.decimalDigits_ne_nil n)
  rw [remark, hdigits, List.cons_append, List.cons_append, List.cons_append] at h
  obtain ⟨rfl, -⟩ := List.cons.inj h
  exact Decimal.not_mem_decimalDigits rfl n (hdigits ▸ List.mem_cons_self)

/-- Whether there is a position is seen right behind the source. -/
theorem unknown_iff_of_behindSource_eq {l l' : Location}
    {severity severity' message message' : List Char}
    (h : behindSource l severity message = behindSource l' severity' message') :
    l = .unknown ↔ l' = .unknown := by
  unfold behindSource at h
  by_cases hl : l = .unknown
  · by_cases hl' : l' = .unknown
    · exact iff_of_true hl hl'
    · rw [if_pos hl, if_neg hl'] at h
      exact absurd h (remark_ne_digits _ _ _ _)
  · by_cases hl' : l' = .unknown
    · rw [if_neg hl, if_pos hl'] at h
      exact absurd h.symm (remark_ne_digits _ _ _ _)
    · exact iff_of_false hl hl'

/-- The numbers of a position end at the first colons behind them. -/
theorem position_of_digits_eq {l l' : Location} {rest rest' : List Char}
    (h : Numeral.decimalDigits l.line.toNat ++ ':' ::
        (Numeral.decimalDigits l.column.toNat ++ ':' :: rest) =
      Numeral.decimalDigits l'.line.toNat ++ ':' ::
        (Numeral.decimalDigits l'.column.toNat ++ ':' :: rest')) :
    l.line = l'.line ∧ l.column = l'.column ∧ rest = rest' := by
  have hcolon : ∀ n : ℕ, ':' ∉ Numeral.decimalDigits n := Decimal.not_mem_decimalDigits rfl
  obtain ⟨hline, h⟩ := append_cons_inj (hcolon _) (hcolon _) h
  obtain ⟨hcolumn, hrest⟩ := append_cons_inj (hcolon _) (hcolon _) h
  have hword : ∀ {v w : UInt32},
      Numeral.decimalDigits v.toNat = Numeral.decimalDigits w.toNat → v = w :=
    fun h => UInt32.toNat_inj.mp (Numeral.decimal_inj.mp (congrArg String.ofList h))
  exact ⟨hword hline, hword hcolumn, hrest⟩

/-! ## Reading the line -/

/-- What two diagnostics have in common if they say the same. -/
structure SameContent (source source' : String) (l l' : Location) (severity severity' : String)
    (message message' : Twine) : Prop where
  source_eq : source = source'
  /-- Both have no position, or both have the same line and column. -/
  position : (l = .unknown ∧ l' = .unknown) ∨
    (l ≠ .unknown ∧ l' ≠ .unknown ∧ l.line = l'.line ∧ l.column = l'.column)
  severity_eq : severity = severity'
  message_eq : message.text = message'.text

variable {source source' severity severity' : String} {message message' : Twine} {l l' : Location}

/-- Lines of the same source are read alike behind it. -/
theorem behindSource_eq_of_line_eq
    (h : source ++ positionText l ++ ": " ++ severity ++ ": " ++ message.text ++ "\n" =
      source' ++ positionText l' ++ ": " ++ severity' ++ ": " ++ message'.text ++ "\n")
    (hsource : source = source' ∨ (':' ∉ source.toList ∧ ':' ∉ source'.toList)) :
    source = source' ∧ behindSource l severity.toList message.text.toList =
      behindSource l' severity'.toList message'.text.toList := by
  have hchars := congrArg String.toList h
  rw [toList_line, toList_line] at hchars
  rcases hsource with rfl | ⟨hs, hs'⟩
  -- The common source may hold colons, so it is taken off as a whole.
  · exact ⟨rfl, (List.cons.inj (List.append_cancel_left hchars)).2⟩
  · obtain ⟨hname, hrest⟩ := append_cons_inj hs hs' hchars
    exact ⟨String.toList_inj.mp hname, hrest⟩

/-- Equal lines say the same, if no severity holds a colon and the sources are equal or hold none. -/
theorem sameContent_of_line_eq
    (h : source ++ positionText l ++ ": " ++ severity ++ ": " ++ message.text ++ "\n" =
      source' ++ positionText l' ++ ": " ++ severity' ++ ": " ++ message'.text ++ "\n")
    (hsource : source = source' ∨ (':' ∉ source.toList ∧ ':' ∉ source'.toList))
    (hs : ':' ∉ severity.toList) (hs' : ':' ∉ severity'.toList) :
    SameContent source source' l l' severity severity' message message' := by
  obtain ⟨hname, hbehind⟩ := behindSource_eq_of_line_eq h hsource
  have hiff := unknown_iff_of_behindSource_eq hbehind
  unfold behindSource at hbehind
  by_cases hl : l = .unknown
  · have hl' : l' = .unknown := hiff.mp hl
    rw [if_pos hl, if_pos hl'] at hbehind
    obtain ⟨hseverity, hmessage⟩ := remark_inj hs hs' hbehind
    exact ⟨hname, .inl ⟨hl, hl'⟩, String.toList_inj.mp hseverity, String.toList_inj.mp hmessage⟩
  · have hl' : l' ≠ .unknown := mt hiff.mpr hl
    rw [if_neg hl, if_neg hl'] at hbehind
    obtain ⟨hline, hcolumn, hremark⟩ := position_of_digits_eq hbehind
    obtain ⟨hseverity, hmessage⟩ := remark_inj hs hs' hremark
    exact ⟨hname, .inr ⟨hl, hl', hline, hcolumn⟩, String.toList_inj.mp hseverity,
      String.toList_inj.mp hmessage⟩

end Diagnostic

namespace Registry

variable {σ τ : Type}

/-! ## What an operation writes -/

section Written

variable (S : Sink σ) (r : Registry σ)

/-- A registry whose sink is watched from now on. -/
def watch : Registry (σ × List Call) :=
  { sources := r.sources, sink := r.sink.map fun s => (s, []), failed := r.failed }

/-- The bytes that an operation writes, which are those that the sink of the registry receives. A
registry without a sink writes nothing. -/
def written (op : Operation) : Bytes :=
  (r.watch.step S.watched op).2.1.sink.elim [] fun s => s.2.flatMap Call.payload

/-- A watched sink is left as it is left unwatched, and has kept the block of the operation. -/
theorem sink_step_watch (op : Operation) :
    (r.watch.step S.watched op).2.1.sink =
      (r.step S op).2.1.sink.map fun s => (s, op.block r.sources) := by
  rw [step_state, step_state]
  obtain ⟨sources, sink, failed⟩ := r
  cases sink with
  | none => rfl
  | some s =>
      show some (S.watched.receiveAll (op.block sources) (s, [])).1 = _
      rw [Sink.receiveAll_watched, List.nil_append]
      rfl

/-- No operation gives a registry a sink or takes it away. -/
theorem hasSink_step (op : Operation) : (r.step S op).2.1.hasSink = r.hasSink := by
  rw [step_state]
  exact Option.isSome_map

variable {S r} {op : Operation}

/-- A registry with a sink writes the bytes of the block. -/
theorem written_of_hasSink (hsink : r.hasSink = true) :
    r.written S op = (op.block r.sources).flatMap Call.payload := by
  rw [← hasSink_step S r op] at hsink
  obtain ⟨s, hs⟩ := Option.isSome_iff_exists.mp hsink
  rw [written, sink_step_watch, hs]
  rfl

/-- A registry without a sink writes nothing. -/
theorem written_of_silent (hsilent : r.hasSink = false) : r.written S op = [] := by
  rw [← hasSink_step S r op] at hsilent
  have hnone : (r.step S op).2.1.sink = none :=
    Option.isNone_iff_eq_none.mp (Option.isSome_eq_false_iff.mp hsilent)
  rw [written, sink_step_watch, hnone]
  rfl

end Written

/-! ## Lines of two registries -/

variable {S : Sink σ} {S' : Sink τ} {r : Registry σ} {r' : Registry τ} {op op' : Operation}
  {severity severity' : String} {message message' : Twine} {l l' : Location}

/-- A diagnostic is written as one line of text, if there is a sink. -/
theorem written_of_diagnostic? (hsink : r.hasSink = true)
    (h : op.diagnostic? = some (severity, message, l)) :
    r.written S op = Utf8.encode (r.nameOf l.source ++ Diagnostic.positionText l ++ ": " ++ severity ++
      ": " ++ message.text ++ "\n") := by
  rw [written_of_hasSink hsink, Operation.block_of_diagnostic? h]
  exact Diagnostic.payload_block (r.nameOf l.source) severity message l

/-- A line is never empty, so only a registry with a sink writes the same as another one with a
sink. -/
theorem hasSink_of_written_eq (hsink : r.hasSink = true)
    (hop : op.diagnostic? = some (severity, message, l)) (h : r.written S op = r'.written S' op') :
    r'.hasSink = true := by
  by_contra hsilent
  rw [written_of_diagnostic? hsink hop, written_of_silent (eq_false_of_ne_true hsilent),
    Utf8.encode_append] at h
  exact absurd (List.append_eq_nil_iff.mp h).2 (by decide)

/-- Two operations that write a diagnostic, in any states of any two registries and to any sinks,
write the same bytes only if they say the same, unless neither registry has a sink to write to.
Whether there is a position is told whatever the severities are. -/
theorem written_unambiguous (hsink : r.hasSink = true ∨ r'.hasSink = true)
    (hop : op.diagnostic? = some (severity, message, l))
    (hop' : op'.diagnostic? = some (severity', message', l'))
    (h : r.written S op = r'.written S' op') :
    (':' ∉ severity.toList → ':' ∉ severity'.toList →
      (r.nameOf l.source = r'.nameOf l'.source ∨
        (':' ∉ (r.nameOf l.source).toList ∧ ':' ∉ (r'.nameOf l'.source).toList)) →
      Diagnostic.SameContent (r.nameOf l.source) (r'.nameOf l'.source) l l' severity severity'
        message message') ∧
    (r.nameOf l.source = r'.nameOf l'.source → (l = .unknown ↔ l' = .unknown)) := by
  have hboth : r.hasSink = true ∧ r'.hasSink = true := by
    rcases hsink with hr | hr'
    · exact ⟨hr, hasSink_of_written_eq hr hop h⟩
    · exact ⟨hasSink_of_written_eq hr' hop' h.symm, hr'⟩
  rw [written_of_diagnostic? hboth.1 hop, written_of_diagnostic? hboth.2 hop'] at h
  have hline := Utf8.encode_injective h
  constructor
  · intro hs hs' hsource
    exact Diagnostic.sameContent_of_line_eq hline hsource hs hs'
  · intro hsource
    obtain ⟨-, hbehind⟩ := Diagnostic.behindSource_eq_of_line_eq hline (.inl hsource)
    exact Diagnostic.unknown_iff_of_behindSource_eq hbehind

/-- An error in a registered source, written to a recorder, and a diagnostic with an id that stands for
the primary source, written to a buffer. The message is in one piece and in two. -/
theorem written_unambiguous_pieces :
    let r := (Registry.new (some []) "main").after Sink.recorder [.register "lib"]
    let r' := Registry.new (some Buffer.empty) "lib"
    let message : Twine := .borrowed "no: type"
    let message' : Twine := .node (.owned "no") (.borrowed ": type")
    (r.hasSink = true ∧ r'.hasSink = true) ∧
      r.written Sink.recorder (.error message ⟨1, 4, 2⟩) =
        r'.written Buffer.sink (.print "error" message' ⟨7, 4, 2⟩) ∧
      (':' ∉ (r.nameOf 1).toList ∧ ':' ∉ (r'.nameOf 7).toList) ∧
      Diagnostic.SameContent (r.nameOf 1) (r'.nameOf 7) ⟨1, 4, 2⟩ ⟨7, 4, 2⟩ Diagnostic.error "error"
        message message' := by
  intro r r' message message'
  have hsinks : r.hasSink = true ∧ r'.hasSink = true := ⟨rfl, rfl⟩
  have h : r.written Sink.recorder (.error message ⟨1, 4, 2⟩) =
      r'.written Buffer.sink (.print "error" message' ⟨7, 4, 2⟩) := by
    decide
  have hnames : ':' ∉ (r.nameOf 1).toList ∧ ':' ∉ (r'.nameOf 7).toList := by
    decide
  have hop : (Operation.error message ⟨1, 4, 2⟩).diagnostic? =
      some (Diagnostic.error, message, ⟨1, 4, 2⟩) := rfl
  have hop' : (Operation.print "error" message' ⟨7, 4, 2⟩).diagnostic? =
      some ("error", message', ⟨7, 4, 2⟩) := rfl
  exact ⟨hsinks, h, hnames,
    (written_unambiguous (.inl hsinks.1) hop hop' h).1 (by decide) (by decide) (.inr hnames)⟩

/-- Where neither registry has a sink there is no line to read: both write nothing. -/
example (S : Sink σ) (S' : Sink τ) :
    (Registry.new none "main").written S (.error .empty ⟨0, 1, 2⟩) =
      (Registry.new none "lib").written S' (.warning .empty .unknown) := by
  rfl

end Registry

end ShaderDiagnostics
