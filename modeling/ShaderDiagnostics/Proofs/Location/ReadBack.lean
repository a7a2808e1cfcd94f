import Mathlib
import ShaderDiagnostics.Location
import ShaderDiagnostics.Proofs.Decimal.Reading
import ShaderDiagnostics.Proofs.Numeral.Positional
import ShaderDiagnostics.Proofs.Word.Limits
/-!
# Reading a location back

The text of a location is a word of its own for the unknown location, and three decimal numbers with
colons between them for every other one. The numbers read back as the fields
(`ofCoordinates?_coordinates`), and neither word reads as numbers, so that both texts of a location
tell it from all others (`text_identifies`), also from those in which only some fields are the
largest word.
-/

namespace ShaderDiagnostics.Location

/-! ## The reader -/

/-- The word that a row of decimal digits stands for. -/
def field? (digits : List Char) : Option UInt32 :=
  (Decimal.Reading.natural? digits).bind Word.ofNat?

/-- The location whose three fields stand in a text, with colons between them. -/
def ofCoordinates? (text : String) : Option Location :=
  match text.toList.splitOn ':' with
  | [source, line, column] => do
      return ⟨← field? source, ← field? line, ← field? column⟩
  | _ => none

/-- The numeral of a field is read as the field. -/
theorem field?_decimalDigits (w : UInt32) : field? (Numeral.decimalDigits w.toNat) = some w := by
  have hread : Decimal.Reading.natural? (Numeral.decimalDigits w.toNat) = some w.toNat := by
    rw [Decimal.Reading.natural?_eq (Numeral.decimalDigits_ne_nil _)
      (Decimal.allDigits_decimalDigits _), Numeral.ofDecimalDigits_decimalDigits]
  rw [field?, hread]
  exact Word.ofNat?_eq_some_iff.mpr rfl

/-! ## The three numbers -/

/-- The digits of the three fields. -/
def fieldDigits (l : Location) : List (List Char) :=
  [Numeral.decimalDigits l.source.toNat, Numeral.decimalDigits l.line.toNat,
    Numeral.decimalDigits l.column.toNat]

/-- The coordinates are the digits of the fields with colons between them. -/
theorem toList_coordinates (l : Location) :
    l.coordinates.toList = [':'].intercalate l.fieldDigits := by
  simp [coordinates, fieldDigits, Numeral.decimal, List.intercalate]

/-- A colon is no digit, so the numbers end at the colons. -/
theorem splitOn_coordinates (l : Location) :
    l.coordinates.toList.splitOn ':' = l.fieldDigits := by
  have hcolon : ∀ n : ℕ, ':' ∉ Numeral.decimalDigits n := Decimal.not_mem_decimalDigits rfl
  rw [toList_coordinates]
  apply List.splitOn_intercalate
  · simp [fieldDigits, hcolon]
  · simp [fieldDigits]

/-- The coordinates of a location are read back as the location. -/
theorem ofCoordinates?_coordinates (l : Location) : ofCoordinates? l.coordinates = some l := by
  rw [ofCoordinates?, splitOn_coordinates]
  simp [fieldDigits, field?_decimalDigits]

/-! ## Texts with a word for the unknown location -/

/-- The text of a location, which is a word if the location is the unknown one. -/
def textOr (word : String) (l : Location) : String :=
  if l.isUnknown then word else l.coordinates

variable {word : String} {a b l : Location}

theorem textOr_unknown (word : String) : unknown.textOr word = word :=
  rfl

theorem textOr_of_ne (word : String) (h : l ≠ unknown) : l.textOr word = l.coordinates := by
  rw [textOr, if_neg (mt l.isUnknown_iff.mp h)]

/-- A word that does not read as numbers is the text of the unknown location alone. -/
theorem textOr_eq_word_iff (hword : ofCoordinates? word = none) :
    l.textOr word = word ↔ l = unknown := by
  constructor
  · intro h
    by_contra hne
    rw [textOr_of_ne word hne] at h
    rw [← h, ofCoordinates?_coordinates] at hword
    cases hword
  · rintro rfl
    exact textOr_unknown word

/-- Beside a word that does not read as numbers, the text of a location tells it from all others. -/
theorem textOr_inj (hword : ofCoordinates? word = none) :
    a.textOr word = b.textOr word ↔ a = b := by
  constructor
  · intro h
    by_cases hb : b = unknown
    · rw [hb, textOr_unknown] at h
      rw [hb, ← textOr_eq_word_iff hword, h]
    · have ha : a ≠ unknown := by
        rintro rfl
        exact hb ((textOr_eq_word_iff hword).mp h.symm)
      rw [textOr_of_ne word ha, textOr_of_ne word hb] at h
      apply Option.some.inj
      rw [← ofCoordinates?_coordinates a, h, ofCoordinates?_coordinates]
  · rintro rfl
    rfl

/-! ## Both texts -/

theorem text_eq (l : Location) : l.text = l.textOr "<unknown>" :=
  rfl

theorem inspect_eq (l : Location) : l.inspect = l.textOr "Location::BAD" :=
  rfl

/-- The word of a message does not read as numbers. -/
theorem ofCoordinates?_unknown_text : ofCoordinates? "<unknown>" = none := by
  decide

/-- The word for a developer does not read as numbers either: its two colons have nothing in
between. -/
theorem ofCoordinates?_unknown_inspect : ofCoordinates? "Location::BAD" = none := by
  decide

/-- Different locations have different texts in a message. -/
theorem text_inj : a.text = b.text ↔ a = b := by
  rw [text_eq, text_eq, textOr_inj ofCoordinates?_unknown_text]

theorem inspect_inj : a.inspect = b.inspect ↔ a = b := by
  rw [inspect_eq, inspect_eq, textOr_inj ofCoordinates?_unknown_inspect]

theorem text_of_ne (h : l ≠ unknown) : l.text = l.coordinates := by
  rw [text_eq, textOr_of_ne _ h]

/-! ## What the texts tell -/

/-- Every field is the largest word. -/
def AllTop (l : Location) : Prop :=
  l.source.toNat = 2 ^ 32 - 1 ∧ l.line.toNat = 2 ^ 32 - 1 ∧ l.column.toNat = 2 ^ 32 - 1

/-- Only the unknown location has the largest word in every field. -/
theorem allTop_iff : l.AllTop ↔ l = unknown := by
  have htop : ∀ w : UInt32, w.toNat = 2 ^ 32 - 1 ↔ w = Word.top :=
    fun w => UInt32.toNat_inj (b := Word.top)
  obtain ⟨source, line, column⟩ := l
  simp only [AllTop, htop, unknown, mk.injEq]

/-- The texts of two locations are equal exactly if the locations are. -/
structure ToldApart (a b : Location) : Prop where
  text : (a == b) = true ↔ a.text = b.text
  inspect : (a == b) = true ↔ a.inspect = b.inspect

/-- What is read off the text of a location. -/
structure ReadsBack (l : Location) : Prop where
  /-- The largest word in all fields, and nothing else, makes a location the unknown one, whichever
  way one asks. -/
  isUnknown : l.isUnknown = true ↔ l.AllTop
  beq_unknown : (l == unknown) = true ↔ l.AllTop
  text_unknown : l.text = "<unknown>" ↔ l.AllTop
  inspect_unknown : l.inspect = "Location::BAD" ↔ l.AllTop
  /-- Any other text is three numerals, which stand for the fields. -/
  numerals : ¬ l.AllTop → ∃ source line column,
    l.text.toList.splitOn ':' = [source, line, column] ∧
      Numeral.IsNumeral 10 l.source.toNat source ∧ Numeral.IsNumeral 10 l.line.toNat line ∧
      Numeral.IsNumeral 10 l.column.toNat column
  read : ¬ l.AllTop → ofCoordinates? l.text = some l

/-- **A location is known from either of its texts.** -/
theorem text_identifies (a b : Location) : ToldApart a b ∧ ReadsBack a := by
  constructor
  · refine ⟨?_, ?_⟩
    · rw [beq_iff_eq, text_inj]
    · rw [beq_iff_eq, inspect_inj]
  · constructor
    case isUnknown => rw [isUnknown_iff, allTop_iff]
    case beq_unknown => rw [beq_iff_eq, allTop_iff]
    case text_unknown =>
      rw [text_eq, textOr_eq_word_iff ofCoordinates?_unknown_text, allTop_iff]
    case inspect_unknown =>
      rw [inspect_eq, textOr_eq_word_iff ofCoordinates?_unknown_inspect, allTop_iff]
    case numerals =>
      intro h
      have htext : a.text = a.coordinates := text_of_ne (mt allTop_iff.mpr h)
      refine ⟨_, _, _, htext ▸ a.splitOn_coordinates, ?_, ?_, ?_⟩
      · exact Numeral.isNumeral_decimalDigits _
      · exact Numeral.isNumeral_decimalDigits _
      · exact Numeral.isNumeral_decimalDigits _
    case read =>
      intro h
      rw [text_of_ne (mt allTop_iff.mpr h), ofCoordinates?_coordinates]

/-- The largest word in two fields is a number like any other. -/
example : text ⟨Word.top, Word.top, 0⟩ = "4294967295:4294967295:0" := by
  decide

end ShaderDiagnostics.Location
