import Mathlib
import ShaderDiagnostics.Output.Destination
import ShaderDiagnostics.Proofs.Text.Trimming
/-!
# The setting of the destination

The value of the setting is read by its core, what stands between the blanks at its ends. A value of
blanks alone counts as none. A file is asked for exactly if the core is no reserved word, and then
the core is its path (`ofSetting_eq_file_iff`), which asks for the same file when it is the setting
itself (`readsTrimmed_ofSetting`).
-/

namespace ShaderDiagnostics.Destination

open Text

/-! ## Names -/

/-- The words that name a destination other than a file. -/
def reservedNames : List String :=
  ["stderr", "stdout", "silent", "none"]

/-- A name asks for a file, namely the one of that path, exactly if it is no reserved word. -/
theorem ofName_eq_file_iff {name : String} {path : FilePath} :
    ofName name = .file path ↔ path.text = name ∧ name ∉ reservedNames := by
  unfold ofName
  split_ifs with hstderr hstdout hsilent
  · simp [hstderr, reservedNames]
  · simp [hstdout, reservedNames]
  · rcases hsilent with rfl | rfl
    · simp [reservedNames]
    · simp [reservedNames]
  · have hfree : name ∉ reservedNames := by
      simpa [reservedNames, hstderr, hstdout] using hsilent
    constructor
    · intro h
      obtain rfl := Destination.file.inj h
      exact ⟨rfl, hfree⟩
    · rintro ⟨rfl, -⟩
      rfl

/-! ## Values -/

variable {value : String}

/-- A value of blanks alone counts as none. -/
theorem ofSetting_of_allBlank (h : AllBlank value.toList) : ofSetting (some value) = default := by
  show (if trim value = "" then default else ofName (trim value)) = default
  rw [if_pos (trim_eq_empty_iff.mpr h)]

/-- Any other value is taken without the blanks at its ends. -/
theorem ofSetting_of_not_allBlank (h : ¬ AllBlank value.toList) :
    ofSetting (some value) = ofName (trim value) := by
  show (if trim value = "" then default else ofName (trim value)) = _
  rw [if_neg (mt trim_eq_empty_iff.mp h)]

/-- A file is asked for by a core that is no reserved word. -/
theorem ofSetting_eq_file_iff {path : FilePath} :
    ofSetting (some value) = .file path ↔
      IsCore path.text.toList value.toList ∧ path.text ≠ "" ∧ path.text ∉ reservedNames := by
  by_cases hblank : AllBlank value.toList
  · have hempty : trim value = "" := trim_eq_empty_iff.mpr hblank
    rw [ofSetting_of_allBlank hblank, isCore_toList_iff, hempty]
    constructor
    · intro h
      cases h
    · rintro ⟨htext, hne, -⟩
      exact absurd htext hne
  · have hne : trim value ≠ "" := mt trim_eq_empty_iff.mp hblank
    rw [ofSetting_of_not_allBlank hblank, ofName_eq_file_iff, isCore_toList_iff]
    constructor
    · rintro ⟨htext, hfree⟩
      rw [htext]
      exact ⟨rfl, hne, hfree⟩
    · rintro ⟨htext, -, hfree⟩
      rw [htext] at hfree
      exact ⟨htext, hfree⟩

/-! ## What the setting asks for -/

/-- A value asks for the file at a path, when a setting is read by `read`. -/
structure AsksForFile (read : String → Destination) (value : String) (path : FilePath) : Prop where
  ne_empty : path.text ≠ ""
  /-- The path neither starts nor ends with a blank. -/
  trimmed : Trimmed path.text.toList
  not_reserved : path.text ∉ reservedNames
  /-- It stands in the value in one piece, with the blanks inside it. -/
  part : path.text.toList <:+: value.toList
  /-- It is a value that asks for the same file. -/
  again : read path.text = .file path

/-- A setting with this value is read by what stands between the blanks at its ends. -/
structure ReadsTrimmed (read : String → Destination) (value : String) : Prop where
  /-- More blanks in front and behind make no difference. -/
  padded : ∀ front back : String, AllBlank front.toList → AllBlank back.toList →
    read (front ++ value ++ back) = read value
  blank : AllBlank value.toList → read value = default
  /-- There is one core, and it names the destination as it stands. -/
  core : ∃! core : String, IsCore core.toList value.toList
  named : ∀ core : String, IsCore core.toList value.toList → ¬ AllBlank value.toList →
    read value = ofName core
  file : ∀ path, read value = .file path → AsksForFile read value path

/-- **The setting is trimmed before anything is made of it.** -/
theorem readsTrimmed_ofSetting (value : String) :
    ReadsTrimmed (fun value => ofSetting (some value)) value where
  padded := by
    intro front back hfront hback
    simp only [ofSetting, trim_pad hfront hback]
  blank := ofSetting_of_allBlank
  core := by
    refine ⟨trim value, isCore_toList_iff.mpr rfl, ?_⟩
    intro core hcore
    exact isCore_toList_iff.mp hcore
  named := by
    intro core hcore hblank
    rw [isCore_toList_iff.mp hcore]
    exact ofSetting_of_not_allBlank hblank
  file := by
    intro path hfile
    obtain ⟨hcore, hne, hfree⟩ := ofSetting_eq_file_iff.mp hfile
    exact {
      ne_empty := hne
      trimmed := hcore.trimmed
      not_reserved := hfree
      part := hcore.isInfix
      again := ofSetting_eq_file_iff.mpr ⟨.self hcore.trimmed, hne, hfree⟩ }

/-- A word in other letters is a path, and the blank inside it stays. -/
example : ofSetting (some "\u3000None of it\n") = .file ⟨"None of it"⟩ := by
  rfl

end ShaderDiagnostics.Destination
