import Mathlib
import ShaderDiagnostics.Primitive
import ShaderDiagnostics.Proofs.Binary.Canonical
/-!
# Equal primitive values

Equality of primitive values is that of their types and words, with two exceptions
(`Primitive.beq_iff`): a NaN equals nothing, not even itself, and the two zeros of a floating-point
format, whose words differ in the sign bit, are equal. So equality is symmetric and transitive
(`Primitive.beq_symm`, `Primitive.beq_trans`), and equal values have the same text unless they are
the two zeros (`Primitive.Zeros.text`).
-/

namespace ShaderDiagnostics

/-! ## Equal numbers -/

namespace Binary

/-- Numbers are equal if they are the same and no NaN, or if both are zeros. -/
theorem Number.equals_iff {x y : Number} :
    x.equals y = true ↔ (x = y ∧ x.isNaN = false) ∨
      ∃ s s' q q', x = .finite s 0 q ∧ y = .finite s' 0 q' := by
  constructor
  · intro h
    cases x with
    | nan => cases h
    | infinity s =>
        cases y with
        | infinity s' =>
            left
            exact ⟨congrArg infinity (eq_of_beq h), rfl⟩
        | _ => cases h
    | finite s m q =>
        cases y with
        | finite s' m' q' =>
            simp only [equals, Bool.or_eq_true, Bool.and_eq_true, beq_iff_eq] at h
            rcases h with ⟨rfl, rfl⟩ | ⟨⟨rfl, rfl⟩, rfl⟩
            · right
              exact ⟨s, s', q, q', rfl, rfl⟩
            · left
              exact ⟨rfl, rfl⟩
        | _ => cases h
  · rintro (⟨rfl, hx⟩ | ⟨s, s', q, q', rfl, rfl⟩)
    · rw [equals_self, hx]
      rfl
    · rfl

namespace Format

variable {f : Format} {a b : ℕ}

/-- A word that stands for a zero has no bit but that of the sign. -/
theorem word_of_zero {word : ℕ} {negative : Bool} {q : ℤ}
    (hw : word < 2 ^ (f.fractionBits + f.exponentBits + 1))
    (h : f.decode word = .finite negative 0 q) :
    word = negative.toNat * 2 ^ (f.fractionBits + f.exponentBits) := by
  have hpos : 0 < 2 ^ f.fractionBits := by positivity
  obtain ⟨hsign, ⟨hfield, hfraction, -⟩ | ⟨-, hsignificand, -⟩⟩ := decode_eq_finite h
  · have hword := word_eq hw
    rw [← hsign, hfield, ← hfraction, Nat.zero_mul, Nat.add_zero] at hword
    exact hword
  -- the leading bit of a significand is no zero
  · omega

/-- Words of equal numbers are the same, or both are words of zeros. -/
theorem eq_or_zeros_of_equals (ha : a < 2 ^ (f.fractionBits + f.exponentBits + 1))
    (hb : b < 2 ^ (f.fractionBits + f.exponentBits + 1))
    (h : (f.decode a).equals (f.decode b) = true) :
    (a = b ∧ (f.decode a).isNaN = false) ∨
      (a = 0 ∧ b = 2 ^ (f.fractionBits + f.exponentBits)) ∨
        (b = 0 ∧ a = 2 ^ (f.fractionBits + f.exponentBits)) := by
  rcases Number.equals_iff.mp h with ⟨heq, hnan⟩ | ⟨s, s', q, q', hza, hzb⟩
  · left
    refine ⟨?_, hnan⟩
    cases hd : f.decode a with
    | nan => rw [hd] at hnan; cases hnan
    | infinity s => exact decode_injective_of_infinity ha hb hd (heq.symm.trans hd)
    | finite s m q => exact decode_injective_of_finite ha hb hd (heq.symm.trans hd)
  · have hwa := word_of_zero ha hza
    have hwb := word_of_zero hb hzb
    have hnan : (f.decode a).isNaN = false := by
      rw [hza]
      rfl
    cases s <;> cases s' <;> simp only [Bool.toNat_true, Bool.toNat_false, Nat.zero_mul,
      Nat.one_mul] at hwa hwb
    · exact .inl ⟨hwa.trans hwb.symm, hnan⟩
    · exact .inr (.inl ⟨hwa, hwb⟩)
    · exact .inr (.inr ⟨hwb, hwa⟩)
    · exact .inl ⟨hwa.trans hwb.symm, hnan⟩

end Format

end Binary

/-! ## Equal values -/

namespace Primitive

/-- The zero of a floating-point format, and its zero with the sign bit set. -/
inductive Zeros : Primitive → Primitive → Prop where
  | float32 : Zeros (float32 0) (float32 0x80000000)
  | float64 : Zeros (float64 0) (float64 0x8000000000000000)

variable {p q r : Primitive}

/-- The zeros are told apart by a sign in front. -/
theorem Zeros.text (h : Zeros p q) : p.text = "0" ∧ q.text = "-0" := by
  cases h <;> decide +kernel

/-- The two zeros of a width are equal, either way round. -/
theorem Zeros.beq (h : Zeros p q) : (p == q) = true ∧ (q == p) = true := by
  cases h <;> decide +kernel

theorem beq_eq (p q : Primitive) : (p == q) = p.equals q :=
  rfl

/-- Equal single numbers are the same word, and a number, or the two zeros. -/
theorem eq_or_zeros_of_single {a b : UInt32} (h : (float32 a == float32 b) = true) :
    (float32 a = float32 b ∧ (float32 a).isNaN = false) ∨
      Zeros (float32 a) (float32 b) ∨ Zeros (float32 b) (float32 a) := by
  rcases Binary.Format.eq_or_zeros_of_equals a.toNat_lt b.toNat_lt h with
    ⟨heq, hnan⟩ | ⟨ha, hb⟩ | ⟨hb, ha⟩
  · exact .inl ⟨congrArg float32 (UInt32.toNat_inj.mp heq), hnan⟩
  · obtain rfl : a = 0 := UInt32.toNat_inj.mp ha
    obtain rfl : b = 0x80000000 := UInt32.toNat_inj.mp hb
    exact .inr (.inl .float32)
  · obtain rfl : b = 0 := UInt32.toNat_inj.mp hb
    obtain rfl : a = 0x80000000 := UInt32.toNat_inj.mp ha
    exact .inr (.inr .float32)

theorem eq_or_zeros_of_double {a b : UInt64} (h : (float64 a == float64 b) = true) :
    (float64 a = float64 b ∧ (float64 a).isNaN = false) ∨
      Zeros (float64 a) (float64 b) ∨ Zeros (float64 b) (float64 a) := by
  rcases Binary.Format.eq_or_zeros_of_equals a.toNat_lt b.toNat_lt h with
    ⟨heq, hnan⟩ | ⟨ha, hb⟩ | ⟨hb, ha⟩
  · exact .inl ⟨congrArg float64 (UInt64.toNat_inj.mp heq), hnan⟩
  · obtain rfl : a = 0 := UInt64.toNat_inj.mp ha
    obtain rfl : b = 0x8000000000000000 := UInt64.toNat_inj.mp hb
    exact .inr (.inl .float64)
  · obtain rfl : b = 0 := UInt64.toNat_inj.mp hb
    obtain rfl : a = 0x8000000000000000 := UInt64.toNat_inj.mp ha
    exact .inr (.inr .float64)

/-- Equal values are the same and no NaN, or they are the zeros of one format. -/
theorem beq_iff : (p == q) = true ↔ (p = q ∧ p.isNaN = false) ∨ Zeros p q ∨ Zeros q p := by
  constructor
  · intro h
    rw [beq_eq] at h
    unfold equals at h
    split at h
    case h_9 => exact eq_or_zeros_of_single h
    case h_10 => exact eq_or_zeros_of_double h
    -- values of two types
    case h_13 => cases h
    all_goals exact .inl ⟨by rw [eq_of_beq h], rfl⟩
  · rintro (⟨rfl, hnan⟩ | h | h)
    · rw [beq_self, hnan]
      rfl
    · exact h.beq.1
    · exact h.beq.2

theorem beq_symm (h : (p == q) = true) : (q == p) = true := by
  rcases beq_iff.mp h with ⟨rfl, -⟩ | hpq | hqp
  · exact h
  · exact hpq.beq.2
  · exact hqp.beq.1

theorem beq_trans (h : (p == q) = true) (h' : (q == r) = true) : (p == r) = true := by
  rcases beq_iff.mp h with ⟨rfl, -⟩ | hpq | hqp
  · exact h'
  · rcases beq_iff.mp h' with ⟨rfl, -⟩ | hqr | hrq
    · exact h
    -- no zero is both of the two
    · cases hpq <;> cases hqr
    · cases hpq <;> cases hrq <;> decide +kernel
  · rcases beq_iff.mp h' with ⟨rfl, -⟩ | hqr | hrq
    · exact h
    · cases hqp <;> cases hqr <;> decide +kernel
    · cases hqp <;> cases hrq

instance : PartialEquivBEq Primitive where
  symm := beq_symm
  trans := beq_trans

end Primitive

end ShaderDiagnostics
