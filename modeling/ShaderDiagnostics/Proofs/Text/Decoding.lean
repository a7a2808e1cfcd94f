import Mathlib
import ShaderDiagnostics.Text.Utf8
/-!
# Text among other bytes

A reader of bytes that comes to text is never misled by what stands before it: the first byte of a
character continues no other character (`parts_append_of_not_tail`). And after text it has nothing
begun (`parts_encodeChars_append`). So text is read as it was written wherever it stands among other
bytes, and these are read as if there were no text (`decodeLossy_append_encode_append`).
-/

namespace ShaderDiagnostics.Utf8

/-! ## Bytes that continue a character -/

/-- A byte that can stand in a character, behind the first one. -/
def IsTail (b : UInt8) : Prop :=
  0x80 ≤ b ∧ b ≤ 0xBF

/-- What has been begun goes on with a byte that continues a character. -/
def WaitsForTail (state : Option Begun) : Prop :=
  ∀ c, state = some c → 0x80 ≤ c.low ∧ c.high ≤ 0xBF

theorem waitsForTail_none : WaitsForTail none :=
  nofun

/-- A character that is begun and takes no byte but tails waits for one. -/
theorem waitsForTail_some {bits missing : ℕ} {low high : UInt8} (hlow : 0x80 ≤ low)
    (hhigh : high ≤ 0xBF) : WaitsForTail (some ⟨bits, missing, low, high⟩) := by
  rintro c hc
  obtain rfl := Option.some.inj hc
  exact ⟨hlow, hhigh⟩

/-- Whatever a first byte begins waits for a tail. -/
theorem waitsForTail_start (b : UInt8) : WaitsForTail (start b).2 := by
  unfold start
  split
  · exact waitsForTail_none
  split
  · exact waitsForTail_none
  split
  · exact waitsForTail_some (by decide) (by decide)
  split
  · exact waitsForTail_some (by split <;> decide) (by split <;> decide)
  split
  · exact waitsForTail_some (by split <;> decide) (by split <;> decide)
  · exact waitsForTail_none

/-- Whatever is begun after a byte waits for a tail. -/
theorem waitsForTail_step (state : Option Begun) (b : UInt8) : WaitsForTail (step state b).2 := by
  cases state with
  | none => exact waitsForTail_start b
  | some c =>
      rw [step]
      split
      · cases c.missing with
        | zero => exact waitsForTail_none
        | succ missing => exact waitsForTail_some (by decide) (by decide)
      · exact waitsForTail_start b

/-- Whatever bytes have been read, what they begin waits for a tail. -/
theorem waitsForTail_begunAfter {state : Option Begun} (h : WaitsForTail state) (bytes : Bytes) :
    WaitsForTail (begunAfter state bytes) := by
  induction bytes generalizing state with
  | nil => exact h
  | cons b rest ih => exact ih (waitsForTail_step state b)

/-! ## Reading on -/

theorem partsFrom_cons (state : Option Begun) (b : UInt8) (rest : Bytes) :
    partsFrom state (b :: rest) = (step state b).1 ++ partsFrom (step state b).2 rest := by
  rw [partsFrom, partsFrom, completedFrom, begunAfter, List.append_assoc]

/-- A byte that is no tail breaks off what has been begun and is read by itself. -/
theorem step_of_not_tail {c : Begun} {b : UInt8} (hc : WaitsForTail (some c)) (hb : ¬ IsTail b) :
    step (some c) b = (none :: (start b).1, (start b).2) := by
  obtain ⟨hlow, hhigh⟩ := hc c rfl
  have hout : ¬ (c.low ≤ b ∧ b ≤ c.high) := by
    rintro ⟨hle, hge⟩
    exact hb ⟨UInt8.le_trans hlow hle, UInt8.le_trans hge hhigh⟩
  rw [step, if_neg hout]

/-- The reader starts anew at a byte that is no tail. -/
theorem parts_append_of_not_tail (a : Bytes) {b : UInt8} (hb : ¬ IsTail b) (rest : Bytes) :
    parts (a ++ b :: rest) = parts a ++ parts (b :: rest) := by
  have hwaits := waitsForTail_begunAfter waitsForTail_none a
  rw [parts, partsFrom_append, parts, parts, partsFrom.eq_def none a]
  cases hstate : begunAfter none a with
  | none => simp
  | some c =>
      rw [hstate] at hwaits
      rw [partsFrom_cons, step_of_not_tail hwaits hb, partsFrom_cons]
      simp [step]

/-! ## Reading a character -/

section

variable {b : UInt8} {n : ℕ}

/-- A byte below 128 is a character of its own. -/
theorem start_of_one (hb : b.toNat < 0x80) : start b = ([some (Char.ofNat b.toNat)], none) := by
  have hlt : b < 0x80 := UInt8.lt_iff_toNat_lt.mpr hb
  rw [start, if_pos hlt]

/-- A character of two bytes is begun by its first one. -/
theorem start_of_two (hb : b.toNat = n + 0xC0) (hlow : 2 ≤ n) (hhigh : n < 0x20) :
    start b = ([], some ⟨n, 0, 0x80, 0xBF⟩) := by
  simp only [start, UInt8.lt_iff_toNat_lt, hb, UInt8.reduceToNat]
  rw [if_neg (by omega), if_neg (by omega), if_pos (by omega), Nat.add_sub_cancel]

/-- A character of three bytes is begun by its first one, which may narrow the second: no long form
of a shorter one, and no surrogate. -/
theorem start_of_three (hb : b.toNat = n + 0xE0) (hhigh : n < 0x10) :
    start b = ([], some ⟨n, 1, if n = 0 then 0xA0 else 0x80, if n = 0xD then 0x9F else 0xBF⟩) := by
  simp only [start, UInt8.lt_iff_toNat_lt, ← UInt8.toNat_inj, hb, UInt8.reduceToNat]
  rw [if_neg (by omega), if_neg (by omega), if_neg (by omega), if_pos (by omega), Nat.add_sub_cancel]
  simp

/-- A character of four bytes is begun by its first one, which may narrow the second: no long form
of a shorter one, and nothing beyond the last character. -/
theorem start_of_four (hb : b.toNat = n + 0xF0) (hhigh : n < 5) :
    start b = ([], some ⟨n, 2, if n = 0 then 0x90 else 0x80, if n = 4 then 0x8F else 0xBF⟩) := by
  simp only [start, UInt8.lt_iff_toNat_lt, ← UInt8.toNat_inj, hb, UInt8.reduceToNat]
  rw [if_neg (by omega), if_neg (by omega), if_neg (by omega), if_neg (by omega), if_pos (by omega),
    Nat.add_sub_cancel]
  simp

/-- A byte that continues a character begins none. -/
theorem start_of_isTail (hb : IsTail b) : start b = ([none], none) := by
  obtain ⟨hlow, hhigh⟩ := hb
  simp only [UInt8.le_iff_toNat_le, UInt8.reduceToNat] at hlow hhigh
  simp only [start, UInt8.lt_iff_toNat_lt, UInt8.reduceToNat]
  rw [if_neg (by omega), if_pos (by omega)]

variable {bits missing : ℕ} {low high : UInt8}

/-- A byte in the range that a begun character waits for takes its bits up. -/
theorem step_more (hb : b.toNat = n + 0x80) (hlow : low.toNat ≤ n + 0x80)
    (hhigh : n + 0x80 ≤ high.toNat) :
    step (some ⟨bits, missing + 1, low, high⟩) b =
      ([], some ⟨bits * 64 + n, missing, 0x80, 0xBF⟩) := by
  rw [← hb, ← UInt8.le_iff_toNat_le] at hlow hhigh
  simp only [step, hlow, hhigh, and_self, if_true, hb, Nat.add_sub_cancel]

/-- The last byte completes the character. -/
theorem step_last (hb : b.toNat = n + 0x80) (hn : n < 0x40) :
    step (some ⟨bits, 0, 0x80, 0xBF⟩) b = ([some (Char.ofNat (bits * 64 + n))], none) := by
  have hlow : 0x80 ≤ b := by
    simp only [UInt8.le_iff_toNat_le, UInt8.reduceToNat]
    omega
  have hhigh : b ≤ 0xBF := by
    simp only [UInt8.le_iff_toNat_le, UInt8.reduceToNat]
    omega
  simp only [step, hlow, hhigh, and_self, if_true, hb, Nat.add_sub_cancel]

end

section

variable {b₀ b₁ b₂ b₃ : UInt8} {n₀ n₁ n₂ n₃ : ℕ}

/-- Two bytes are read as one character unless one byte can say as much. -/
theorem parts_two (h₀ : b₀.toNat = n₀ + 0xC0) (h₁ : b₁.toNat = n₁ + 0x80) (hlow : 2 ≤ n₀)
    (hhigh : n₀ < 0x20) (hn₁ : n₁ < 0x40) (rest : Bytes) :
    parts (b₀ :: b₁ :: rest) = some (Char.ofNat (n₀ * 64 + n₁)) :: parts rest := by
  rw [parts, partsFrom_cons, step, start_of_two h₀ hlow hhigh, partsFrom_cons, step_last h₁ hn₁]
  rfl

/-- Three bytes are read as one character unless two can say as much or it is a surrogate. -/
theorem parts_three (h₀ : b₀.toNat = n₀ + 0xE0) (h₁ : b₁.toNat = n₁ + 0x80)
    (h₂ : b₂.toNat = n₂ + 0x80) (hn₀ : n₀ < 0x10) (hn₁ : n₁ < 0x40) (hn₂ : n₂ < 0x40)
    (hlong : n₀ = 0 → 0x20 ≤ n₁) (hsurrogate : n₀ = 0xD → n₁ < 0x20) (rest : Bytes) :
    parts (b₀ :: b₁ :: b₂ :: rest) =
      some (Char.ofNat ((n₀ * 64 + n₁) * 64 + n₂)) :: parts rest := by
  have hlow : (if n₀ = 0 then 0xA0 else 0x80 : UInt8).toNat ≤ n₁ + 0x80 := by
    split <;> simp only [UInt8.reduceToNat] <;> omega
  have hhigh : n₁ + 0x80 ≤ (if n₀ = 0xD then 0x9F else 0xBF : UInt8).toNat := by
    split <;> simp only [UInt8.reduceToNat] <;> omega
  rw [parts, partsFrom_cons, step, start_of_three h₀ hn₀, partsFrom_cons,
    step_more h₁ hlow hhigh, partsFrom_cons, step_last h₂ hn₂]
  rfl

/-- Four bytes are read as one character unless three can say as much or it is beyond the last. -/
theorem parts_four (h₀ : b₀.toNat = n₀ + 0xF0) (h₁ : b₁.toNat = n₁ + 0x80)
    (h₂ : b₂.toNat = n₂ + 0x80) (h₃ : b₃.toNat = n₃ + 0x80) (hn₀ : n₀ < 5) (hn₁ : n₁ < 0x40)
    (hn₂ : n₂ < 0x40) (hn₃ : n₃ < 0x40) (hlong : n₀ = 0 → 0x10 ≤ n₁)
    (hbeyond : n₀ = 4 → n₁ < 0x10) (rest : Bytes) :
    parts (b₀ :: b₁ :: b₂ :: b₃ :: rest) =
      some (Char.ofNat (((n₀ * 64 + n₁) * 64 + n₂) * 64 + n₃)) :: parts rest := by
  have hlow : (if n₀ = 0 then 0x90 else 0x80 : UInt8).toNat ≤ n₁ + 0x80 := by
    split <;> simp only [UInt8.reduceToNat] <;> omega
  have hhigh : n₁ + 0x80 ≤ (if n₀ = 4 then 0x8F else 0xBF : UInt8).toNat := by
    split <;> simp only [UInt8.reduceToNat] <;> omega
  have hlow₂ : (0x80 : UInt8).toNat ≤ n₂ + 0x80 := Nat.le_add_left _ _
  have hhigh₂ : n₂ + 0x80 ≤ (0xBF : UInt8).toNat := Nat.add_le_add_right (Nat.le_of_lt_succ hn₂) _
  rw [parts, partsFrom_cons, step, start_of_four h₀ hn₀, partsFrom_cons,
    step_more h₁ hlow hhigh, partsFrom_cons, step_more h₂ hlow₂ hhigh₂, partsFrom_cons,
    step_last h₃ hn₃]
  rfl

end

/-- A character is read as itself, and leaves nothing begun. -/
theorem parts_utf8EncodeChar_append (c : Char) (rest : Bytes) :
    parts (String.utf8EncodeChar c ++ rest) = some c :: parts rest := by
  have hvalid : c.val.toNat < 0xD800 ∨ 0xDFFF < c.val.toNat ∧ c.val.toNat < 0x110000 := c.valid
  have hofNat : ∀ n, n = c.val.toNat → Char.ofNat n = c := by
    rintro n rfl
    exact Char.ofNat_toNat c
  have hbyte : ∀ n, n < 256 → (UInt8.ofNat n).toNat = n := fun n hn => UInt8.toNat_ofNat_of_lt' hn
  unfold String.utf8EncodeChar
  simp only
  generalize c.val.toNat = v at hvalid hofNat
  -- one case for each number of bytes
  split
  · have hb := hbyte v (by omega)
    rw [List.cons_append, List.nil_append, parts, partsFrom_cons, step, start_of_one (by omega), hb,
      hofNat v rfl]
    rfl
  split
  · have hb₀ := hbyte (v / 64 % 32 + 192) (by omega)
    have hb₁ := hbyte (v % 64 + 128) (by omega)
    have hread := parts_two hb₀ hb₁ (by omega) (by omega) (by omega) rest
    rwa [hofNat _ (by omega)] at hread
  split
  · have hb₀ := hbyte (v / 4096 % 16 + 224) (by omega)
    have hb₁ := hbyte (v / 64 % 64 + 128) (by omega)
    have hb₂ := hbyte (v % 64 + 128) (by omega)
    have hread := parts_three hb₀ hb₁ hb₂ (by omega) (by omega) (by omega) (by omega) (by omega) rest
    rwa [hofNat _ (by omega)] at hread
  · have hb₀ := hbyte (v / 262144 % 8 + 240) (by omega)
    have hb₁ := hbyte (v / 4096 % 64 + 128) (by omega)
    have hb₂ := hbyte (v / 64 % 64 + 128) (by omega)
    have hb₃ := hbyte (v % 64 + 128) (by omega)
    have hread := parts_four hb₀ hb₁ hb₂ hb₃ (by omega) (by omega) (by omega) (by omega) (by omega)
      (by omega) rest
    rwa [hofNat _ (by omega)] at hread

/-- The first byte of a character is no tail, since a tail is never read as part of a character
that begins with it. -/
theorem exists_not_isTail (c : Char) :
    ∃ b more, String.utf8EncodeChar c = b :: more ∧ ¬ IsTail b := by
  obtain ⟨b, more, hc⟩ := List.exists_cons_of_ne_nil (String.utf8EncodeChar_ne_nil (c := c))
  refine ⟨b, more, hc, fun hb => ?_⟩
  have hread := parts_utf8EncodeChar_append c []
  rw [hc, List.cons_append, parts, partsFrom_cons, step, start_of_isTail hb] at hread
  cases hread

/-! ## Reading a text -/

/-- Characters are read as themselves, and what follows them is read as if it stood alone. -/
theorem parts_encodeChars_append (chars : List Char) (rest : Bytes) :
    parts (encodeChars chars ++ rest) = chars.map some ++ parts rest := by
  induction chars with
  | nil => rfl
  | cons c chars ih =>
      rw [encodeChars, List.flatMap_cons, List.append_assoc, parts_utf8EncodeChar_append,
        ← encodeChars, ih]
      rfl

/-- Text that has a character is read as itself wherever it stands, and the bytes on either side are
read as if they stood alone. -/
theorem decodeLossy_append_encode_append (before : Bytes) {text : String} (h : text ≠ "")
    (after : Bytes) :
    decodeLossy (before ++ encode text ++ after) =
      decodeLossy before ++ text ++ decodeLossy after := by
  have hparts : parts (before ++ encode text ++ after) =
      parts before ++ text.toList.map some ++ parts after := by
    rw [List.append_assoc, List.append_assoc, encode, ← parts_encodeChars_append]
    obtain ⟨c, rest, htext⟩ :=
      List.exists_cons_of_ne_nil (mt String.toList_eq_nil_iff.mp h)
    obtain ⟨b, more, hc, hb⟩ := exists_not_isTail c
    rw [htext, encodeChars, List.flatMap_cons, hc]
    exact parts_append_of_not_tail before hb _
  have htext : String.ofList ((text.toList.map some).map (·.getD replacement)) = text := by
    rw [List.map_map]
    exact (congrArg String.ofList (List.map_id text.toList)).trans String.ofList_toList
  rw [decodeLossy, hparts, List.map_append, List.map_append, String.ofList_append,
    String.ofList_append, htext]
  rfl

/-- The bytes of a text are read as the text. -/
theorem decodeLossy_encode (text : String) : decodeLossy (encode text) = text := by
  by_cases h : text = ""
  · subst h
    rfl
  · have hread := decodeLossy_append_encode_append [] h []
    rw [List.nil_append, List.append_nil] at hread
    rw [hread]
    exact String.append_empty.trans String.empty_append

end ShaderDiagnostics.Utf8
