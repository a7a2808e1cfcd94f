import Mathlib
import ShaderDiagnostics.Numeral
/-!
# Numerals in a base

A numeral is a row of digits without a superfluous zero in front, and its positional value is the
number that it stands for (`IsNumeral`). The digits of a number in any base up to sixteen are its
numeral (`isNumeral_toDigits`), which is thus read in one way only. In front of the decimal numeral
of a negative integer stands a `-` (`isSigned_signed`), which is no digit, so that an integer is known
from its text as well (`IsSigned.unique`).
-/

namespace ShaderDiagnostics.Numeral

/-! ## Digits -/

/-- The digits, by their values; beyond nine they are letters in lower case. -/
def alphabet : List Char :=
  ['0', '1', '2', '3', '4', '5', '6', '7', '8', '9', 'a', 'b', 'c', 'd', 'e', 'f']

/-- The value of a digit. -/
def digitValue (c : Char) : ℕ :=
  alphabet.idxOf c

/-- The positional value of a row of digits, the most significant one first. -/
def positional (base : ℕ) (digits : List Char) : ℕ :=
  digits.foldl (fun n c => base * n + digitValue c) 0

/-- A digit at the end counts once, and all before it count for one place more. -/
theorem positional_concat (base : ℕ) (digits : List Char) (c : Char) :
    positional base (digits ++ [c]) = base * positional base digits + digitValue c := by
  unfold positional
  rw [List.foldl_concat]

/-- The digits stand in the alphabet in the order of their values. -/
theorem getElem_alphabet {d : ℕ} (h : d < alphabet.length) : alphabet[d] = d.digitChar := by
  have hd : d < 16 := h
  interval_cases d <;> rfl

/-- The place of a digit in the alphabet is its value. -/
theorem digitValue_digitChar {d : ℕ} (h : d < 16) : digitValue d.digitChar = d := by
  have hnodup : alphabet.Nodup := by decide
  rw [← getElem_alphabet h]
  exact hnodup.idxOf_getElem d h

/-- A base uses the front of the alphabet. -/
theorem digitChar_mem {base d : ℕ} (hd : d < base) (hbase : base ≤ 16) :
    d.digitChar ∈ alphabet.take base := by
  have hlength : d < alphabet.length := hd.trans_le hbase
  rw [← getElem_alphabet hlength]
  exact List.mem_take_iff_getElem.mpr ⟨d, by omega, rfl⟩

/-! ## Numerals -/

/-- A row of characters is the numeral of a number in a base. -/
structure IsNumeral (base n : ℕ) (digits : List Char) : Prop where
  ne_nil : digits ≠ []
  /-- Every character is a digit of the base. -/
  digit : ∀ c ∈ digits, c ∈ alphabet.take base
  /-- No zero stands in front, unless it is the only digit. -/
  head : digits.head? = some '0' → digits = ['0']
  value : positional base digits = n

variable {base m n : ℕ} {digits : List Char}

/-- A numeral is that of one number. -/
theorem IsNumeral.unique (h : IsNumeral base m digits) (h' : IsNumeral base n digits) : m = n :=
  h.value.symm.trans h'.value

/-- The numeral of a positive number does not start with a zero. -/
theorem IsNumeral.head?_ne (h : IsNumeral base n digits) (hn : 0 < n) :
    digits.head? ≠ some '0' := by
  intro hhead
  have hvalue := h.value
  -- the zero would be all of the digits, and the number zero
  rw [h.head hhead] at hvalue
  exact absurd hvalue hn.ne

/-- A digit that is appended to the numeral of a positive number makes a numeral. -/
theorem IsNumeral.concat {d : ℕ} (h : IsNumeral base n digits) (hn : 0 < n) (hd : d < base)
    (hbase : base ≤ 16) : IsNumeral base (base * n + d) (digits ++ [d.digitChar]) where
  ne_nil := List.append_ne_nil_of_left_ne_nil h.ne_nil _
  digit := by
    intro c hc
    rcases List.mem_append.mp hc with hc | hc
    · exact h.digit c hc
    · rw [List.mem_singleton.mp hc]
      exact digitChar_mem hd hbase
  head := by
    intro hhead
    rw [List.head?_append_of_ne_nil _ h.ne_nil] at hhead
    exact absurd hhead (h.head?_ne hn)
  value := by rw [positional_concat, h.value, digitValue_digitChar (hd.trans_le hbase)]

/-- The digits of a number are its numeral, in every base up to sixteen. -/
theorem isNumeral_toDigits (hbase : 2 ≤ base) (hbase' : base ≤ 16) (n : ℕ) :
    IsNumeral base n (Nat.toDigits base n) := by
  induction n using Nat.strongRecOn with
  | ind n ih =>
      rcases Nat.lt_or_ge n base with hlt | hge
      · rw [Nat.toDigits_of_lt_base hlt]
        refine ⟨List.cons_ne_nil _ _, ?_, ?_, ?_⟩
        · intro c hc
          rw [List.mem_singleton.mp hc]
          exact digitChar_mem hlt hbase'
        · intro hhead
          exact congrArg (fun c => [c]) (Option.some.inj hhead)
        · show base * 0 + digitValue n.digitChar = n
          rw [Nat.mul_zero, Nat.zero_add, digitValue_digitChar (hlt.trans_le hbase')]
      · have hpos : 0 < n / base := Nat.div_pos hge (by omega)
        have hquotient := ih (n / base) (Nat.div_lt_self (by omega) (by omega))
        have hdigits := hquotient.concat hpos (Nat.mod_lt n (by omega)) hbase'
        rw [Nat.div_add_mod] at hdigits
        rw [Nat.toDigits_of_base_le (by omega) hge]
        exact hdigits

/-- The decimal digits of a number are its numeral. -/
theorem isNumeral_decimalDigits (n : ℕ) : IsNumeral 10 n (decimalDigits n) :=
  isNumeral_toDigits (by decide) (by decide) n

theorem isNumeral_hexDigits (n : ℕ) : IsNumeral 16 n (hexDigits n) :=
  isNumeral_toDigits (by decide) (by decide) n

/-! ## Signed numerals -/

/-- A text is the decimal numeral of an integer, with `-` in front of a negative one only. -/
def IsSigned (n : ℤ) (text : String) : Prop :=
  ∃ digits, text.toList = (if n < 0 then '-' :: digits else digits) ∧
    IsNumeral 10 n.natAbs digits

/-- An integer is written as the numeral of its size, with a minus if it is negative. -/
theorem isSigned_signed (n : ℤ) : IsSigned n (signed n) := by
  refine ⟨decimalDigits n.natAbs, ?_, isNumeral_decimalDigits n.natAbs⟩
  unfold signed decimal
  split_ifs
  · rw [String.toList_append, String.toList_ofList, String.toList_ofList]
    rfl
  · rw [String.toList_ofList]

/-- A natural number is written without a sign. -/
theorem signed_natCast (n : ℕ) : signed n = decimal n := by
  rw [signed, if_neg (by omega), Int.natAbs_natCast]

/-- A sign is no digit. -/
theorem IsNumeral.ne_dash_cons (h : IsNumeral 10 n digits) (rest : List Char) :
    digits ≠ '-' :: rest := by
  rintro rfl
  exact absurd (h.digit '-' List.mem_cons_self) (by decide)

/-- An integer is known from its text. -/
theorem IsSigned.unique {m n : ℤ} {text : String} (h : IsSigned m text) (h' : IsSigned n text) :
    m = n := by
  obtain ⟨digits, htext, hdigits⟩ := h
  obtain ⟨digits', htext', hdigits'⟩ := h'
  rw [htext] at htext'
  split_ifs at htext' with hm hn hn
  · obtain rfl := (List.cons.inj htext').2
    have habs := hdigits.unique hdigits'
    omega
  · exact absurd htext'.symm (hdigits'.ne_dash_cons digits)
  · exact absurd htext' (hdigits.ne_dash_cons digits')
  · obtain rfl := htext'
    have habs := hdigits.unique hdigits'
    omega

end ShaderDiagnostics.Numeral
