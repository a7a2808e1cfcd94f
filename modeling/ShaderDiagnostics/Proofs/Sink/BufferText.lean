import Mathlib
import ShaderDiagnostics.Proofs.Registry.Output
import ShaderDiagnostics.Proofs.Text.Decoding
/-!
# The text of a buffer

A buffer holds bytes alone and no longer knows which of them were written as text. Its text still
shows every text as it was written, and every run of raw bytes between two texts as if it stood alone
(`Buffer.Shows`), whatever these bytes are and however they were cut into writes
(`Buffer.keepsTexts_run`). What a registry writes is text alone, and is shown exactly.
-/

namespace ShaderDiagnostics

namespace Buffer

/-! ## Runs of raw bytes -/

section Runs

variable {calls : List Call} {call : Call} {shown : String}

/-- The calls carry raw bytes alone: a text among them is empty. -/
def IsRun (calls : List Call) : Prop :=
  ∀ content, Call.text content ∈ calls → content = ""

/-- A row of calls is a run exactly if each of its calls is one. -/
theorem isRun_cons : IsRun (call :: calls) ↔ IsRun [call] ∧ IsRun calls := by
  simp only [IsRun, List.mem_cons, List.not_mem_nil, or_false, or_imp, forall_and]

/-- A call carries raw bytes, or it is a text with a character. -/
theorem isRun_or_eq_text (call : Call) :
    IsRun [call] ∨ ∃ content, call = .text content ∧ content ≠ "" := by
  cases call with
  | bytes content => exact .inl fun text hmem => absurd hmem (by simp)
  | text content =>
      by_cases h : content = ""
      · left
        intro text hmem
        obtain rfl : text = content := by simpa using hmem
        exact h
      · exact .inr ⟨content, rfl, h⟩

/-! ## What calls show -/

/-- What a row of calls shows: each text with a character as it is, and the bytes of each run between
two such texts, or beside one, as they are read by themselves. -/
inductive Shows : List Call → String → Prop where
  | run {calls : List Call} (h : IsRun calls) :
      Shows calls (Utf8.decodeLossy (calls.flatMap Call.payload))
  | text (run : List Call) {rest : List Call} {content shown : String} (hrun : IsRun run)
      (hne : content ≠ "") (hrest : Shows rest shown) :
      Shows (run ++ .text content :: rest)
        (Utf8.decodeLossy (run.flatMap Call.payload) ++ content ++ shown)

/-- Every row of calls falls into runs and texts. -/
theorem exists_shows (calls : List Call) : ∃ shown, Shows calls shown := by
  induction calls with
  | nil => exact ⟨_, .run fun content hmem => absurd hmem List.not_mem_nil⟩
  | cons call rest ih =>
      obtain ⟨shown, hrest⟩ := ih
      rcases isRun_or_eq_text call with hcall | ⟨content, rfl, hne⟩
      -- the call joins the run that the rest begins with
      · cases hrest with
        | run hrun => exact ⟨_, .run (isRun_cons.mpr ⟨hcall, hrun⟩)⟩
        | text run hrun hne hrest =>
            exact ⟨_, .text (call :: run) (isRun_cons.mpr ⟨hcall, hrun⟩) hne hrest⟩
      · exact ⟨_, .text [] (fun content hmem => absurd hmem List.not_mem_nil) hne hrest⟩

/-- The bytes of the calls, read in one, are read as the calls show them. -/
theorem Shows.eq (h : Shows calls shown) :
    shown = Utf8.decodeLossy (calls.flatMap Call.payload) := by
  induction h with
  | run _ => rfl
  | @text run rest content shown _ hne _ ih =>
      have hread := Utf8.decodeLossy_append_encode_append (run.flatMap Call.payload) hne
        (rest.flatMap Call.payload)
      rw [List.flatMap_append, List.flatMap_cons, ← List.append_assoc, Call.payload, hread, ih]

/-- What a buffer shows of a row of calls is the lossy reading of their bytes. -/
theorem shows_iff : Shows calls shown ↔ shown = Utf8.decodeLossy (calls.flatMap Call.payload) := by
  constructor
  · exact Shows.eq
  · rintro rfl
    obtain ⟨shown, h⟩ := exists_shows calls
    exact h.eq ▸ h

end Runs

/-! ## Histories -/

namespace Operation

/-- Whether an operation forgets what was written before. -/
def isClear : Operation → Bool
  | write _ => false
  | clear => true

/-- The calls of an operation. -/
def calls : Operation → List Call
  | write content => content.calls
  | clear => []

end Operation

/-- The calls of the operations after the last clear, or of all operations if there is none. -/
def callsSinceClear (ops : List Operation) : List Call :=
  (ops.rtakeWhile fun op => !op.isClear).flatMap Operation.calls

/-- A clear forgets the calls before it, and any other operation adds its own. -/
theorem callsSinceClear_concat (ops : List Operation) (op : Operation) :
    callsSinceClear (ops ++ [op]) = if op.isClear then [] else callsSinceClear ops ++ op.calls := by
  rw [callsSinceClear, List.rtakeWhile_concat]
  cases op with
  | write content => simp [Operation.isClear, callsSinceClear]
  | clear => rfl

/-- A buffer holds the bytes of the calls since the last clear. -/
theorem bytes_run (ops : List Operation) :
    (empty.run ops).bytes = (callsSinceClear ops).flatMap Call.payload := by
  induction ops using List.reverseRecOn with
  | nil => rfl
  | append_singleton ops op ih =>
      rw [run, List.foldl_concat, callsSinceClear_concat]
      cases op with
      | write content =>
          show (content.perform sink (empty.run ops)).1.bytes = _
          rw [content.perform_eq_receiveAll, bytes_receiveAll, ih]
          exact List.flatMap_append.symm
      | clear => rfl

end Buffer

/-! ## Registries -/

/-- A diagnostic is written in texts alone. -/
theorem Diagnostic.exists_texts_block (source severity : String) (message : Twine) (l : Location) :
    ∃ texts : List String, block source severity message l = texts.map Call.text := by
  obtain ⟨position, hposition⟩ : ∃ texts : List String, positionCalls l = texts.map Call.text := by
    unfold positionCalls
    split
    · exact ⟨[], rfl⟩
    · exact ⟨[_, _, _, _], rfl⟩
  refine ⟨[source, ":"] ++ position ++ [" ", severity, ": "] ++ message.pieces ++ ["\n"], ?_⟩
  simp only [block, hposition, Twine.calls, List.map_append, List.map_cons, List.map_nil]

/-- Over a row of operations, a registry writes texts alone. -/
theorem SourceTable.exists_texts_blocks (t : SourceTable) (ops : List Operation) :
    ∃ texts : List String, (t.blocks ops).flatten = texts.map Call.text := by
  induction ops generalizing t with
  | nil => exact ⟨[], rfl⟩
  | cons op ops ih =>
      obtain ⟨later, hlater⟩ := ih (op.sourcesAfter t)
      obtain ⟨texts, htexts⟩ : ∃ texts : List String, op.block t = texts.map Call.text := by
        cases op with
        | print severity message l => exact Diagnostic.exists_texts_block _ _ _ _
        | error message l => exact Diagnostic.exists_texts_block _ _ _ _
        | warning message l => exact Diagnostic.exists_texts_block _ _ _ _
        | register _ | nameOf _ | names | hasSink => exact ⟨[], rfl⟩
      refine ⟨texts ++ later, ?_⟩
      rw [blocks, List.flatten_cons, htexts, hlater, List.map_append]

namespace Buffer

/-! ## What the text of a buffer keeps -/

/-- The text of a buffer shows what was written to it. -/
structure KeepsTexts (ops : List Operation) (buffer : Buffer) : Prop where
  /-- It is what the calls since the last clear show, and they show nothing else. -/
  shows_iff : ∀ shown, Shows (callsSinceClear ops) shown ↔ shown = buffer.text
  /-- If they are texts alone, it is these texts in one. -/
  text_eq : ∀ texts : List String, callsSinceClear ops = texts.map Call.text →
    buffer.text = String.join texts

/-- Texts written to a buffer are shown as they are, whatever raw bytes surround them; and a buffer
that a registry writes to shows the texts of the diagnostics and nothing else. -/
theorem keepsTexts_run (ops : List Operation) (primary : String)
    (registered : List ShaderDiagnostics.Operation) :
    KeepsTexts ops (empty.run ops) ∧
      ∃ texts buffer, (SourceTable.blocks ⟨primary, []⟩ registered).flatten = texts.map Call.text ∧
        ((Registry.new (some empty) primary).after sink registered).sink = some buffer ∧
          buffer.text = String.join texts := by
  refine ⟨⟨fun shown => ?shows_iff, fun texts htexts => ?text_eq⟩, ?registry⟩
  case shows_iff =>
    rw [Buffer.text, bytes_run]
    exact shows_iff
  case text_eq =>
    rw [Buffer.text, bytes_run, htexts, Call.payload_texts, Utf8.decodeLossy_encode]
  case registry =>
    obtain ⟨texts, htexts⟩ := SourceTable.exists_texts_blocks ⟨primary, []⟩ registered
    refine ⟨texts, _, htexts, Registry.sink_after sink (Registry.new (some empty) primary) registered,
      ?_⟩
    show Utf8.decodeLossy (sink.receiveAll (SourceTable.blocks ⟨primary, []⟩ registered).flatten
      empty).1.bytes = _
    rw [bytes_receiveAll, htexts, Call.payload_texts]
    exact Utf8.decodeLossy_encode _

/-- The bytes of `€` are cut by an empty text and read together; those of `é` are cut by `x`, and each
half is a broken part. -/
example :
    (empty.run [.write (.text "lost"), .clear, .write (.bytes [0xE2, 0x82]), .write (.text ""),
      .write (.bytes [0xAC, 0xC3]), .write (.text "x"), .write (.bytes [0xA9])]).text =
        "€\uFFFDx\uFFFD" := by
  decide

end Buffer

end ShaderDiagnostics
