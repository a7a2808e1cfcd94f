import Mathlib
import ShaderDiagnostics.Text.Blank
/-!
# Text between blanks

The core of a text is what stands between the blanks at its ends (`IsCore`). It has no blank at an
end of its own, while blanks inside it stay. Every text has exactly one core, and trimming finds it
(`isCore_toList_iff`), however many blanks are put around the text (`trim_pad`).
-/

namespace ShaderDiagnostics.Text

variable {chars core : List Char}

/-! ## Blanks -/

/-- There is nothing but blanks. -/
def AllBlank (chars : List Char) : Prop :=
  ∀ c ∈ chars, isBlank c = true

theorem AllBlank.append {a b : List Char} (ha : AllBlank a) (hb : AllBlank b) :
    AllBlank (a ++ b) :=
  List.forall_mem_append.mpr ⟨ha, hb⟩

theorem AllBlank.reverse (h : AllBlank chars) : AllBlank chars.reverse := by
  intro c hc
  exact h c (List.mem_reverse.mp hc)

/-! ## Ends -/

/-- There is no blank at either end. -/
def Trimmed (chars : List Char) : Prop :=
  ∀ c, chars.head? = some c ∨ chars.getLast? = some c → isBlank c = false

/-- What stands behind blanks at the front is left, if it does not start with a blank itself. -/
theorem dropWhile_isBlank_append {front rest : List Char} (hfront : AllBlank front)
    (hrest : ∀ c, rest.head? = some c → isBlank c = false) :
    (front ++ rest).dropWhile isBlank = rest := by
  rw [List.dropWhile_append_of_pos hfront]
  cases rest with
  | nil => rfl
  | cons c rest => exact List.dropWhile_cons_of_neg (by simp [hrest c rfl])

/-! ## The core -/

/-- What stands between the blanks at the ends of a row of characters. -/
structure IsCore (core chars : List Char) : Prop where
  between : ∃ front back, AllBlank front ∧ AllBlank back ∧ chars = front ++ core ++ back
  trimmed : Trimmed core

/-- What has no blank at its ends is its own core. -/
theorem IsCore.self (h : Trimmed chars) : IsCore chars chars where
  between := ⟨[], [], nofun, nofun, by simp⟩
  trimmed := h

/-- Blanks around a row leave its core as it is. -/
theorem IsCore.pad {front back : List Char} (h : IsCore core chars) (hfront : AllBlank front)
    (hback : AllBlank back) : IsCore core (front ++ chars ++ back) where
  between := by
    obtain ⟨front', back', hfront', hback', rfl⟩ := h.between
    exact ⟨front ++ front', back' ++ back, hfront.append hfront', hback'.append hback, by simp⟩
  trimmed := h.trimmed

/-- The core stands in the row in one piece. -/
theorem IsCore.isInfix (h : IsCore core chars) : core <:+: chars := by
  obtain ⟨front, back, -, -, rfl⟩ := h.between
  exact ⟨front, back, rfl⟩

/-- Nothing is left only of blanks. -/
theorem IsCore.eq_nil_iff (h : IsCore core chars) : core = [] ↔ AllBlank chars := by
  obtain ⟨front, back, hfront, hback, rfl⟩ := h.between
  constructor
  · rintro rfl
    rw [List.append_nil]
    exact hfront.append hback
  · intro hall
    by_contra hne
    obtain ⟨c, rest, rfl⟩ := List.exists_cons_of_ne_nil hne
    -- the core starts with a character that is no blank
    have hblank : isBlank c = true := hall c (by simp)
    rw [h.trimmed c (.inl rfl)] at hblank
    exact absurd hblank (by decide)

/-! ## Trimming -/

/-- What trimming leaves is the core. -/
theorem isCore_trimChars (chars : List Char) : IsCore (trimChars chars) chars where
  between := by
    refine ⟨chars.takeWhile isBlank, (chars.dropWhile isBlank).rtakeWhile isBlank, ?_, ?_, ?_⟩
    · intro c hc
      exact List.mem_takeWhile_imp hc
    · intro c hc
      exact List.mem_rtakeWhile_imp hc
    · show chars = _ ++ (chars.dropWhile isBlank).rdropWhile isBlank ++ _
      rw [List.append_assoc, List.rdropWhile_append_rtakeWhile, List.takeWhile_append_dropWhile]
  trimmed := by
    intro c hc
    have hfront : trimChars chars <+: chars.dropWhile isBlank :=
      List.rdropWhile_prefix isBlank (chars.dropWhile isBlank)
    rcases hc with hhead | hlast
    -- the first character is the first one that is no blank
    · have hnot := List.head?_dropWhile_not isBlank chars
      obtain ⟨back, hback⟩ := hfront
      rw [← hback, List.head?_append, hhead] at hnot
      exact hnot
    · have hne : trimChars chars ≠ [] := by
        intro hnil
        simp [hnil] at hlast
      rw [List.getLast?_eq_some_getLast hne] at hlast
      obtain rfl := Option.some.inj hlast
      exact Bool.eq_false_of_not_eq_true (List.rdropWhile_last_not isBlank _ hne)

/-- The core is what trimming leaves, and nothing else is. -/
theorem isCore_iff : IsCore core chars ↔ core = trimChars chars := by
  constructor
  · intro h
    obtain ⟨front, back, hfront, hback, rfl⟩ := h.between
    unfold trimChars
    cases core with
    | nil =>
        have hnil : (front ++ [] ++ back).dropWhile isBlank = [] :=
          List.dropWhile_eq_nil_iff.mpr (h.eq_nil_iff.mp rfl)
        rw [hnil]
        rfl
    | cons c rest =>
        have hc : isBlank c = false := h.trimmed c (.inl rfl)
        rw [List.append_assoc, dropWhile_isBlank_append hfront (by simp [hc]),
          List.reverse_append, dropWhile_isBlank_append hback.reverse, List.reverse_reverse]
        intro d hd
        rw [List.head?_reverse] at hd
        exact h.trimmed d (.inr hd)
  · rintro rfl
    exact isCore_trimChars chars

/-! ## Texts -/

variable {core text : String}

/-- The core of a text is the text that trimming leaves. -/
theorem isCore_toList_iff : IsCore core.toList text.toList ↔ core = trim text := by
  rw [isCore_iff, ← String.toList_inj, trim, String.toList_ofList]

/-- Trimming leaves nothing exactly of blanks. -/
theorem trim_eq_empty_iff : trim text = "" ↔ AllBlank text.toList := by
  rw [trim, String.ofList_eq_empty_iff]
  exact (isCore_trimChars text.toList).eq_nil_iff

/-- More blanks at the ends make no difference. -/
theorem trim_pad {front back : String} (hfront : AllBlank front.toList)
    (hback : AllBlank back.toList) (text : String) : trim (front ++ text ++ back) = trim text := by
  symm
  apply isCore_toList_iff.mp
  rw [String.toList_append, String.toList_append]
  exact (isCore_toList_iff.mpr rfl).pad hfront hback

end ShaderDiagnostics.Text
