import ShaderDiagnostics.Device.Writer
/-!
# Open files

What stands behind an opened path: a regular file, which keeps what is written, or one of two
devices. The null device accepts everything and keeps nothing; the full device accepts nothing. A
buffered file gathers small writes and passes them on in one.
-/

namespace ShaderDiagnostics

/-! ## Files -/

/-- A file that is open for writing. -/
inductive OpenFile where
  /-- A regular file with its content. -/
  | regular (content : Bytes)
  /-- The device that accepts everything and keeps nothing. -/
  | null
  /-- The device that has no space. -/
  | full
  deriving DecidableEq

namespace OpenFile

/-- The content of a regular file. -/
def content? : OpenFile → Option Bytes
  | regular content => some content
  | _ => none

/-- Write bytes at the end of a file. Writing nothing asks nothing of a device. -/
def write (bytes : Bytes) : OpenFile → Option IoError × OpenFile
  | regular content => (none, regular (content ++ bytes))
  | null => (none, null)
  | full => (if bytes = [] then none else some (.system .storageFull), full)

/-- Writing nothing succeeds on every file and leaves it as it is. -/
theorem write_nil (f : OpenFile) : f.write [] = (none, f) := by
  cases f <;> simp [write]

end OpenFile

/-! ## Buffered files -/

/-- A file together with the bytes that have not been passed on to it. -/
structure BufferedFile where
  file : OpenFile
  pending : Bytes := []
  deriving DecidableEq

namespace BufferedFile

/-- The number of bytes that may be held back. -/
def capacity : Nat := 8192

/-- Pass on what is held back; after an error it stays held back. -/
def flush (f : BufferedFile) : Option IoError × BufferedFile :=
  match f.file.write f.pending with
  | (none, file) => (none, ⟨file, []⟩)
  | (some e, file) => (some e, ⟨file, f.pending⟩)

/-- A flush that ends well leaves nothing held back. -/
theorem pending_flush_of_none {f : BufferedFile} (h : f.flush.1 = none) :
    f.flush.2.pending = [] := by
  unfold flush at h ⊢
  split at h
  · rfl
  · simp at h

/-- Hold back more bytes. -/
def hold (bytes : Bytes) (f : BufferedFile) : BufferedFile :=
  { f with pending := f.pending ++ bytes }

/-- Write bytes. What fits with room to spare is held back. What is longer than the room passes on
the bytes before it first, and is lost if that fails; after that, a write as long as the capacity
goes straight to the file. -/
def writeAll (bytes : Bytes) (f : BufferedFile) : Option IoError × BufferedFile :=
  let room := capacity - f.pending.length
  if bytes.length < room then (none, f.hold bytes)
  else
    match if room < bytes.length then f.flush else (none, f) with
    | (some e, f) => (some e, f)
    | (none, f) =>
      if capacity ≤ bytes.length then
        let (error, file) := f.file.write bytes
        (error, { f with file })
      else (none, f.hold bytes)

/-- Buffered files as writers. -/
def writer : Writer BufferedFile where
  writeAll := writeAll
  flush := flush

/-- The file after it is closed: what is held back is passed on, and an error goes unnoticed. -/
def close (f : BufferedFile) : OpenFile :=
  f.flush.2.file

end BufferedFile

end ShaderDiagnostics
