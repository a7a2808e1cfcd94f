/-!
# Text as bytes

Text is written to byte streams in UTF-8 (`Utf8.encode`). A byte stream need not hold text: reading
it back splits it into characters and *broken parts*, where a broken part is as long as it can be
while it still could have become a character. `Utf8.decode?` refuses broken parts, and
`Utf8.decodeLossy` puts one replacement character for each.

The reader is a machine that looks at one byte at a time and remembers the character that has
begun, so it can be run over a stream piece by piece (`Utf8.partsFrom_append`).
-/

namespace ShaderDiagnostics

/-- A row of bytes. -/
abbrev Bytes := List UInt8

namespace Utf8

/-! ## Writing -/

/-- The bytes of a row of characters. -/
def encodeChars (chars : List Char) : Bytes :=
  chars.flatMap String.utf8EncodeChar

/-- The bytes of a text. -/
def encode (text : String) : Bytes :=
  encodeChars text.toList

theorem encodeChars_append (a b : List Char) :
    encodeChars (a ++ b) = encodeChars a ++ encodeChars b :=
  List.flatMap_append

/-- The bytes of two texts in a row are those of each in turn. -/
theorem encode_append (a b : String) : encode (a ++ b) = encode a ++ encode b := by
  simp [encode, encodeChars_append]

/-! ## Reading one byte -/

/-- A character of which some bytes have been read. The next byte must lie between `low` and `high`;
`missing` more are to follow after that one. -/
structure Begun where
  /-- The bits of the code point so far. -/
  bits : Nat
  missing : Nat
  low : UInt8
  high : UInt8

/-- A character, or the mark `none` of a broken part. -/
abbrev Part := Option Char

/-- Read a byte with no character begun. A first byte fixes the number of bytes to come, and some
first bytes narrow the range of the second: this keeps out overlong forms, surrogates and numbers
beyond the last code point. -/
def start (b : UInt8) : List Part × Option Begun :=
  if b < 0x80 then ([some (Char.ofNat b.toNat)], none)
  else if b < 0xC2 then ([none], none)
  else if b < 0xE0 then ([], some ⟨b.toNat - 0xC0, 0, 0x80, 0xBF⟩)
  else if b < 0xF0 then
    ([], some ⟨b.toNat - 0xE0, 1, if b = 0xE0 then 0xA0 else 0x80, if b = 0xED then 0x9F else 0xBF⟩)
  else if b < 0xF5 then
    ([], some ⟨b.toNat - 0xF0, 2, if b = 0xF0 then 0x90 else 0x80, if b = 0xF4 then 0x8F else 0xBF⟩)
  else ([none], none)

/-- Read a byte. One that does not continue the character begun breaks it off and is then read by
itself. -/
def step : Option Begun → UInt8 → List Part × Option Begun
  | none, b => start b
  | some c, b =>
    if c.low ≤ b ∧ b ≤ c.high then
      let bits := c.bits * 64 + (b.toNat - 0x80)
      match c.missing with
      | 0 => ([some (Char.ofNat bits)], none)
      | missing + 1 => ([], some ⟨bits, missing, 0x80, 0xBF⟩)
    else (none :: (start b).1, (start b).2)

/-! ## Reading a stream -/

/-- What has been begun after a row of bytes. -/
def begunAfter : Option Begun → Bytes → Option Begun
  | state, [] => state
  | state, b :: rest => begunAfter (step state b).2 rest

/-- The parts that a row of bytes completes. -/
def completedFrom : Option Begun → Bytes → List Part
  | _, [] => []
  | state, b :: rest => (step state b).1 ++ completedFrom (step state b).2 rest

/-- The parts of a row of bytes: those it completes, and a broken part for a character that the end
cuts off. -/
def partsFrom (state : Option Begun) (bytes : Bytes) : List Part :=
  completedFrom state bytes ++ if (begunAfter state bytes).isSome then [none] else []

/-- The parts of a row of bytes. -/
def parts (bytes : Bytes) : List Part :=
  partsFrom none bytes

/-- What is begun after two rows of bytes goes on from what is begun after the first. -/
theorem begunAfter_append (state : Option Begun) (a b : Bytes) :
    begunAfter state (a ++ b) = begunAfter (begunAfter state a) b := by
  induction a generalizing state with
  | nil => rfl
  | cons x a ih => exact ih _

/-- What two rows complete is what each completes, the second going on from the first. -/
theorem completedFrom_append (state : Option Begun) (a b : Bytes) :
    completedFrom state (a ++ b) =
      completedFrom state a ++ completedFrom (begunAfter state a) b := by
  induction a generalizing state with
  | nil => rfl
  | cons x a ih => simp [completedFrom, begunAfter, ih]

/-- A row of bytes may be cut anywhere, if what is begun at the cut is carried over. -/
theorem partsFrom_append (state : Option Begun) (a b : Bytes) :
    partsFrom state (a ++ b) = completedFrom state a ++ partsFrom (begunAfter state a) b := by
  simp [partsFrom, completedFrom_append, begunAfter_append]

/-! ## Texts -/

/-- The character that stands for a broken part. -/
def replacement : Char := '\uFFFD'

/-- The text of a row of bytes, with a replacement character for each broken part. -/
def decodeLossy (bytes : Bytes) : String :=
  String.ofList ((parts bytes).map (·.getD replacement))

/-- The text of a row of bytes, if no part is broken. -/
def decode? (bytes : Bytes) : Option String :=
  ((parts bytes).mapM id).map String.ofList

end Utf8

end ShaderDiagnostics
