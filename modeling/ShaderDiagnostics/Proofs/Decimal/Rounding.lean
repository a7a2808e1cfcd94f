import Mathlib
import ShaderDiagnostics.Decimal.Rounding
/-!
# Correct decimal rounding

What it means to round a non-negative rational to the nearest whole number (`IsNearestEven`) and to
a number of significant digits (`Rounds`), and that `roundHalfEven` and `toSignificant` do so.

The main statement about `toSignificant` is `isNearestEven_toSignificant`: the digits found in the
decade of a number are also its nearest digits in the decade of the *rounded* number. A second
rounding with the exponent of the first therefore gives the same digits, even after a carry.
-/

namespace ShaderDiagnostics.Decimal

/-! ## Whole numbers -/

/-- `n` is the whole number nearest to `x`; of two at the same distance it is the even one. -/
structure IsNearestEven (x : ℚ) (n : ℕ) : Prop where
  nearest : ∀ k : ℕ, |x - n| ≤ |x - k|
  even : ∀ k : ℕ, k ≠ n → |x - n| = |x - k| → Even n

/-- Two different whole numbers are at least 1 apart. -/
theorem one_le_abs_sub_of_ne {n k : ℕ} (h : k ≠ n) : (1 : ℚ) ≤ |(n : ℚ) - k| := by
  have hi : (1 : ℤ) ≤ |(n : ℤ) - k| := Int.one_le_abs (by omega)
  exact_mod_cast hi

/-- Half a unit suffices: whatever lies within it is nearest. -/
theorem IsNearestEven.of_half {x : ℚ} {n : ℕ} (h : |x - n| ≤ 1 / 2)
    (he : |x - n| = 1 / 2 → Even n) : IsNearestEven x n := by
  have apart : ∀ k : ℕ, k ≠ n → 1 - |x - n| ≤ |x - k| := by
    intro k hk
    have h1 := one_le_abs_sub_of_ne hk
    have h2 := abs_sub_le (n : ℚ) x k
    rw [abs_sub_comm (n : ℚ) x] at h2
    linarith
  refine ⟨?_, ?_⟩
  · intro k
    by_cases hk : k = n
    · rw [hk]
    · have := apart k hk
      linarith
  · intro k hk htie
    have := apart k hk
    exact he (by linarith)

/-- A non-negative rational lies within half a unit of its nearest whole number. -/
theorem IsNearestEven.half {x : ℚ} {n : ℕ} (hx : 0 ≤ x) (h : IsNearestEven x n) :
    |x - n| ≤ 1 / 2 := by
  by_contra hc
  rcases lt_abs.mp (not_le.mp hc) with hup | hdown
  · have hk := h.nearest (n + 1)
    push_cast at hk
    rw [abs_of_pos (by linarith)] at hk
    have : |x - (n + 1)| < x - n := abs_lt.mpr ⟨by linarith, by linarith⟩
    linarith
  · have hn : 1 ≤ n := by
      have : (0 : ℚ) < n := by linarith
      exact_mod_cast this
    have hk := h.nearest (n - 1)
    push_cast [hn] at hk
    rw [abs_of_neg (by linarith)] at hk
    have : |x - (n - 1)| < -(x - n) := abs_lt.mpr ⟨by linarith, by linarith⟩
    linarith

/-- The nearest whole number is unique. -/
theorem IsNearestEven.unique {x : ℚ} {m n : ℕ} (hm : IsNearestEven x m)
    (hn : IsNearestEven x n) : m = n := by
  by_contra hne
  have htie : |x - m| = |x - n| := le_antisymm (hm.nearest n) (hn.nearest m)
  obtain ⟨a, ha⟩ := hm.even n (Ne.symm hne) htie
  obtain ⟨b, hb⟩ := hn.even m hne htie.symm
  -- the point in the middle of two different even numbers is whole, and nearer than both
  have hmid := hm.nearest (a + b)
  have hsum : x - m = -(x - n) := by
    rcases abs_eq_abs.mp htie with h | h
    · exact absurd (by exact_mod_cast sub_right_injective h : m = n) hne
    · exact h
  have hx : x - ((a + b : ℕ) : ℚ) = 0 := by
    push_cast [ha, hb] at hsum ⊢
    linarith
  rw [hx, abs_zero] at hmid
  have h0 : x - m = 0 := abs_eq_zero.mp (le_antisymm hmid (abs_nonneg _))
  have h1 : x - n = 0 := by linarith
  exact hne (by exact_mod_cast (by linarith : (m : ℚ) = n))

/-- The nearest whole number does not fall below a whole number that `x` reaches. -/
theorem IsNearestEven.le_of_le {x : ℚ} {k n : ℕ} (hk : (k : ℚ) ≤ x)
    (h : IsNearestEven x n) : k ≤ n := by
  have hx : 0 ≤ x := le_trans (Nat.cast_nonneg k) hk
  have hn := (abs_le.mp (h.half hx)).2
  have : (k : ℚ) < n + 1 := by linarith
  exact Nat.lt_succ_iff.mp (by exact_mod_cast this)

/-- The nearest whole number does not exceed a whole number that `x` does not reach. -/
theorem IsNearestEven.le_of_lt {x : ℚ} {k n : ℕ} (hx : 0 ≤ x) (hk : x < k)
    (h : IsNearestEven x n) : n ≤ k := by
  have hn := (abs_le.mp (h.half hx)).1
  have : (n : ℚ) < k + 1 := by linarith
  exact Nat.lt_succ_iff.mp (by exact_mod_cast this)

/-- `roundHalfEven` rounds to the nearest whole number, ties to even. -/
theorem isNearestEven_roundHalfEven {x : ℚ} (hx : 0 ≤ x) : IsNearestEven x (roundHalfEven x) := by
  have hfloor : (x.floor.toNat : ℚ) = (x.floor : ℚ) := by
    have h0 : 0 ≤ x.floor := Int.floor_nonneg.mpr hx
    exact_mod_cast Int.toNat_of_nonneg h0
  have hlow : (x.floor : ℚ) ≤ x := Int.floor_le x
  have hhigh : x < x.floor + 1 := Int.lt_floor_add_one x
  unfold roundHalfEven
  dsimp only
  split_ifs with h1 h2 h3
  · refine IsNearestEven.of_half ?_ ?_ <;> rw [hfloor, abs_of_nonneg (by linarith)]
    · exact h1.le
    · intro h
      exact absurd h h1.ne
  · refine IsNearestEven.of_half ?_ ?_ <;> push_cast <;> rw [hfloor, abs_of_neg (by linarith)]
    · linarith
    · intro h
      linarith
  · have htie : x - x.floor = 1 / 2 := le_antisymm (not_lt.mp h2) (not_lt.mp h1)
    refine IsNearestEven.of_half ?_ ?_ <;> rw [hfloor, htie]
    · rw [abs_of_pos (by norm_num)]
    · intro _
      exact Nat.even_iff.mpr h3
  · have htie : x - x.floor = 1 / 2 := le_antisymm (not_lt.mp h2) (not_lt.mp h1)
    refine IsNearestEven.of_half ?_ ?_ <;> push_cast <;> rw [hfloor]
    · rw [abs_le]
      constructor <;> linarith
    · intro _
      exact Nat.even_iff.mpr (by omega)

/-- Whatever is nearest is what `roundHalfEven` gives. -/
theorem roundHalfEven_eq {x : ℚ} {n : ℕ} (hx : 0 ≤ x) (h : IsNearestEven x n) :
    roundHalfEven x = n :=
  (isNearestEven_roundHalfEven hx).unique h

/-! ## Decades -/

/-- The first significant digit of `x` stands for a multiple of `10 ^ e`. -/
structure InDecade (x : ℚ) (e : ℤ) : Prop where
  lower : 10 ^ e ≤ x
  upper : x < 10 ^ (e + 1)

/-- Only positive numbers lie in a decade. -/
theorem InDecade.pos {x : ℚ} {e : ℤ} (h : InDecade x e) : 0 < x :=
  lt_of_lt_of_le (by positivity) h.lower

/-- A number lies in one decade only. -/
theorem InDecade.unique {x : ℚ} {d e : ℤ} (hd : InDecade x d) (he : InDecade x e) : d = e := by
  have h1 : (10 : ℚ) ^ d < 10 ^ (e + 1) := lt_of_le_of_lt hd.lower he.upper
  have h2 : (10 : ℚ) ^ e < 10 ^ (d + 1) := lt_of_le_of_lt he.lower hd.upper
  rw [zpow_lt_zpow_iff_right₀ (by norm_num)] at h1 h2
  omega

theorem powerOfTen_eq (n : ℕ) : Numeral.powerOfTen n = 10 ^ n := by
  rfl

/-- The digit count of a positive number tells its decade. -/
theorem exists_digitCount_eq {n : ℕ} (hn : 0 < n) :
    ∃ k, digitCount n = k + 1 ∧ 10 ^ k ≤ n ∧ n < 10 ^ (k + 1) := by
  have hpos : 0 < digitCount n := Nat.length_toDigits_pos
  have iff : ∀ k, 0 < k → (digitCount n ≤ k ↔ n < 10 ^ k) := by
    intro k hk
    exact Nat.length_toDigits_le_iff (by norm_num) hk
  refine ⟨digitCount n - 1, by omega, ?_, ?_⟩
  · rcases Nat.eq_zero_or_pos (digitCount n - 1) with h0 | h0
    · rw [h0]
      exact hn
    · by_contra hc
      have := (iff _ h0).mpr (by omega)
      omega
  · exact (iff _ (by omega)).mp (by omega)

/-- From 1 on, the digits of the whole part tell the decade. -/
theorem inDecade_of_one_le {x : ℚ} (hx : 1 ≤ x) :
    InDecade x ((digitCount x.floor.toNat : ℤ) - 1) := by
  have hwhole : (1 : ℤ) ≤ x.floor := Int.le_floor.mpr (by exact_mod_cast hx)
  have hfloor : ((x.floor.toNat : ℕ) : ℚ) = (x.floor : ℚ) := by
    exact_mod_cast Int.toNat_of_nonneg (by omega)
  have hlow : ((x.floor.toNat : ℕ) : ℚ) ≤ x := hfloor ▸ Int.floor_le x
  have hhigh : x < (x.floor.toNat : ℕ) + 1 := hfloor ▸ Int.lt_floor_add_one x
  obtain ⟨k, hk, hle, hlt⟩ := exists_digitCount_eq (n := x.floor.toNat) (by omega)
  rw [hk, show ((k + 1 : ℕ) : ℤ) - 1 = k by push_cast; ring]
  refine ⟨?_, ?_⟩
  · rw [zpow_natCast]
    exact le_trans (by exact_mod_cast hle) hlow
  · have hs : ((x.floor.toNat : ℕ) : ℚ) + 1 ≤ 10 ^ (k + 1) := by exact_mod_cast hlt
    exact_mod_cast lt_of_lt_of_le hhigh hs

/-- Below 1, the digits of the last whole number below `1 / x` tell the decade. -/
theorem inDecade_of_lt_one {x : ℚ} (hx : 0 < x) (h1 : x < 1) :
    InDecade x (-(digitCount (x⁻¹.ceil.toNat - 1) : ℤ)) := by
  have hinv : 1 < x⁻¹ := (one_lt_inv₀ hx).mpr h1
  have hone : (1 : ℤ) < x⁻¹.ceil := by exact_mod_cast lt_of_lt_of_le hinv Rat.le_ceil
  have hcast : ((x⁻¹.ceil.toNat - 1 : ℕ) : ℤ) = x⁻¹.ceil - 1 := by omega
  have hlast : ((x⁻¹.ceil.toNat - 1 : ℕ) : ℚ) < x⁻¹ := by
    have h : (x⁻¹.ceil : ℚ) < x⁻¹ + 1 := Rat.ceil_lt
    rw [← Int.cast_natCast, hcast]
    push_cast
    linarith
  obtain ⟨k, hk, hle, hlt⟩ := exists_digitCount_eq (n := x⁻¹.ceil.toNat - 1) (by omega)
  -- that number has `k + 1` digits, so `10 ^ k < 1 / x ≤ 10 ^ (k + 1)`
  have hlow : (10 : ℚ) ^ k < x⁻¹ := lt_of_le_of_lt (by exact_mod_cast hle) hlast
  have hhigh : x⁻¹ ≤ (10 : ℚ) ^ (k + 1) := by
    have hc : x⁻¹.ceil ≤ 10 ^ (k + 1) := by
      have : ((x⁻¹.ceil.toNat - 1 : ℕ) : ℤ) < 10 ^ (k + 1) := by exact_mod_cast hlt
      omega
    exact le_trans Rat.le_ceil (by exact_mod_cast hc)
  rw [hk]
  refine ⟨?_, ?_⟩
  · rw [zpow_neg, zpow_natCast]
    exact (inv_le_comm₀ (by positivity) hx).mpr hhigh
  · rw [show -((k + 1 : ℕ) : ℤ) + 1 = -(k : ℤ) by push_cast; ring, zpow_neg, zpow_natCast]
    exact (lt_inv_comm₀ (by positivity) hx).mp hlow

/-- `decade` finds the decade of every positive rational. -/
theorem inDecade_decade {x : ℚ} (hx : 0 < x) : InDecade x (decade x) := by
  unfold decade
  split_ifs with h1
  · exact inDecade_of_one_le h1
  · exact inDecade_of_lt_one hx (not_le.mp h1)

/-! ## Significant digits -/

/-- What the last of `precision` significant digits counts, in the decade of `e`. -/
def lastUnit (precision : ℕ) (e : ℤ) : ℚ :=
  10 ^ (e - ((precision : ℤ) - 1))

theorem lastUnit_pos (precision : ℕ) (e : ℤ) : 0 < lastUnit precision e := by
  unfold lastUnit
  positivity

theorem units_nonneg {x : ℚ} (hx : 0 ≤ x) (precision : ℕ) (e : ℤ) :
    0 ≤ x / lastUnit precision e :=
  div_nonneg hx (lastUnit_pos precision e).le

/-- The last unit of the next decade is ten times as large. -/
theorem lastUnit_succ (precision : ℕ) (e : ℤ) :
    lastUnit precision (e + 1) = 10 * lastUnit precision e := by
  unfold lastUnit
  rw [show e + 1 - ((precision : ℤ) - 1) = 1 + (e - ((precision : ℤ) - 1)) by ring,
    zpow_add₀ (by norm_num), zpow_one]

/-- The first digit counts `10 ^ (precision - 1)` times as much as the last. -/
theorem pow_mul_lastUnit {precision : ℕ} (hp : 1 ≤ precision) (e : ℤ) :
    10 ^ (precision - 1) * lastUnit precision e = 10 ^ e := by
  unfold lastUnit
  rw [← zpow_natCast, ← zpow_add₀ (by norm_num)]
  congr 1
  omega

/-- `value` is the decimal of `precision` significant digits nearest to `x`: a whole number of
units of the last digit in the decade of `x`. It may be the first number of the next decade. -/
inductive Rounds (precision : ℕ) : ℚ → ℚ → Prop where
  | zero : Rounds precision 0 0
  | positive {x : ℚ} {e : ℤ} {n : ℕ} (decade : InDecade x e)
      (nearest : IsNearestEven (x / lastUnit precision e) n) :
      Rounds precision x (n * lastUnit precision e)

/-- `e` is the exponent that a decimal shows: that of its first digit, and 0 for zero. -/
def IsExponent (value : ℚ) (e : ℤ) : Prop :=
  value = 0 ∧ e = 0 ∨ InDecade value e

/-- A number shows one exponent only. -/
theorem IsExponent.unique {value : ℚ} {d e : ℤ} (hd : IsExponent value d)
    (he : IsExponent value e) : d = e := by
  rcases hd with ⟨rfl, rfl⟩ | hd
  · rcases he with ⟨-, rfl⟩ | he
    · rfl
    · exact absurd he.pos (lt_irrefl 0)
  · rcases he with ⟨rfl, -⟩ | he
    · exact absurd hd.pos (lt_irrefl 0)
    · exact hd.unique he

/-- Rounding gives one decimal only. -/
theorem Rounds.unique {precision : ℕ} {x a b : ℚ} (ha : Rounds precision x a)
    (hb : Rounds precision x b) : a = b := by
  cases ha with
  | zero =>
      cases hb with
      | zero => rfl
      | positive hd _ => exact absurd hd.pos (lt_irrefl 0)
  | positive hd hn =>
      cases hb with
      | zero => exact absurd hd.pos (lt_irrefl 0)
      | positive hd' hn' =>
          obtain rfl := hd.unique hd'
          rw [hn.unique hn']

/-! ## The digits that are found -/

section

variable {precision : ℕ} {x : ℚ} {e : ℤ} {n : ℕ}

/-- A rounded number is a whole number of last units. -/
theorem value_eq (s : Significant) :
    s.value precision = s.digits * lastUnit precision s.exponent := by
  rfl

/-- Moving the point to the last digit counts the last units. -/
theorem mul_pow_eq_div_lastUnit (x : ℚ) (e : ℤ) :
    x * 10 ^ ((precision : ℤ) - 1 - e) = x / lastUnit precision e := by
  rw [lastUnit, div_eq_mul_inv, ← zpow_neg, neg_sub]

theorem ten_pow_eq (hp : 1 ≤ precision) :
    ((10 ^ precision : ℕ) : ℚ) = 10 * ((10 ^ (precision - 1) : ℕ) : ℚ) := by
  push_cast
  rw [← pow_succ', Nat.sub_add_cancel hp]

/-- The next decade starts at 1 with `precision` zeros, in units of the last digit. -/
theorem zpow_succ_eq (hp : 1 ≤ precision) (e : ℤ) :
    (10 : ℚ) ^ (e + 1) = ((10 ^ precision : ℕ) : ℚ) * lastUnit precision e := by
  rw [ten_pow_eq hp, mul_assoc]
  push_cast
  rw [pow_mul_lastUnit hp, ← zpow_one_add₀ (by norm_num), add_comm]

/-- In units of the last digit, a number has `precision` digits before the point. -/
theorem InDecade.units_lower (h : InDecade x e) (hp : 1 ≤ precision) :
    ((10 ^ (precision - 1) : ℕ) : ℚ) ≤ x / lastUnit precision e := by
  rw [le_div_iff₀ (lastUnit_pos precision e)]
  push_cast
  rw [pow_mul_lastUnit hp]
  exact h.lower

/-- Fewer last units than a power of ten go into a number of the decade. -/
theorem InDecade.units_upper (h : InDecade x e) (hp : 1 ≤ precision) :
    x / lastUnit precision e < ((10 ^ precision : ℕ) : ℚ) := by
  rw [div_lt_iff₀ (lastUnit_pos precision e), ← zpow_succ_eq hp]
  exact h.upper

/-- The digits nearest to a number are `precision` many, or 1 with `precision` zeros. -/
theorem InDecade.nearest_bounds (h : InDecade x e) (hp : 1 ≤ precision)
    (hn : IsNearestEven (x / lastUnit precision e) n) :
    10 ^ (precision - 1) ≤ n ∧ n ≤ 10 ^ precision :=
  ⟨hn.le_of_le (h.units_lower hp),
    hn.le_of_lt (units_nonneg h.pos.le precision e) (h.units_upper hp)⟩

/-- Digits below the next power of ten do not carry, so the decade stays. -/
theorem inDecade_digits (hp : 1 ≤ precision) (hlow : 10 ^ (precision - 1) ≤ n)
    (hhigh : n < 10 ^ precision) : InDecade (n * lastUnit precision e) e := by
  have hpos := lastUnit_pos precision e
  refine ⟨?_, ?_⟩
  · rw [← pow_mul_lastUnit hp]
    exact mul_le_mul_of_nonneg_right (by exact_mod_cast hlow) hpos.le
  · rw [zpow_succ_eq hp]
    exact mul_lt_mul_of_pos_right (by exact_mod_cast hhigh) hpos

/-- The distance to a multiple of a unit, counted in that unit. -/
theorem abs_sub_mul_unit {unit : ℚ} (hunit : 0 < unit) (x n : ℚ) :
    |x - n * unit| = |x / unit - n| * unit := by
  rw [← abs_of_pos hunit, ← abs_mul, abs_of_pos hunit, sub_mul, div_mul_cancel₀ _ hunit.ne']

/-- Rounding moves a number by half a unit of the last digit at most, which is a small part of the
number itself. -/
theorem Rounds.error {r : ℚ} (hp : 1 ≤ precision) (h : Rounds precision x r) :
    2 * 10 ^ (precision - 1) * |x - r| ≤ x := by
  cases h with
  | zero => simp
  | positive hd hn =>
      rename_i e n
      have hunit := lastUnit_pos precision e
      have hhalf := hn.half (units_nonneg hd.pos.le precision e)
      calc 2 * 10 ^ (precision - 1) * |x - n * lastUnit precision e|
          = 2 * |x / lastUnit precision e - n| *
              (10 ^ (precision - 1) * lastUnit precision e) := by
            rw [abs_sub_mul_unit hunit]
            ring
        _ ≤ 1 * (10 ^ (precision - 1) * lastUnit precision e) :=
            mul_le_mul_of_nonneg_right (by linarith) (by positivity)
        _ = 10 ^ e := by rw [one_mul, pow_mul_lastUnit hp]
        _ ≤ x := hd.lower

/-- What `toSignificant` finds for a positive number: the nearest digits in its decade, or, after
a carry, a 1 with zeros in the next. -/
theorem toSignificant_cases (precision : ℕ) (hx : 0 < x) :
    ∃ n, IsNearestEven (x / lastUnit precision (decade x)) n ∧
      (n ≠ 10 ^ precision ∧ toSignificant precision x = ⟨n, decade x⟩ ∨
        n = 10 ^ precision ∧
          toSignificant precision x = ⟨10 ^ (precision - 1), decade x + 1⟩) := by
  refine ⟨_, isNearestEven_roundHalfEven (units_nonneg hx.le precision (decade x)), ?_⟩
  unfold toSignificant
  rw [if_neg hx.ne']
  dsimp only
  rw [mul_pow_eq_div_lastUnit, powerOfTen_eq, powerOfTen_eq]
  split_ifs with h
  · exact Or.inr ⟨h, rfl⟩
  · exact Or.inl ⟨h, rfl⟩

/-- A 1 with zeros in the next decade is the number that the carry reached. -/
theorem carry_value (hp : 1 ≤ precision) (e : ℤ) :
    ((10 ^ (precision - 1) : ℕ) : ℚ) * lastUnit precision (e + 1) =
      ((10 ^ precision : ℕ) : ℚ) * lastUnit precision e := by
  rw [lastUnit_succ, ten_pow_eq hp]
  ring

/-- `toSignificant` rounds to significant digits. -/
theorem rounds_toSignificant (hp : 1 ≤ precision) (hx : 0 ≤ x) :
    Rounds precision x ((toSignificant precision x).value precision) := by
  rcases hx.eq_or_lt with rfl | hx
  · have h : (toSignificant precision 0).value precision = 0 := by
      rw [value_eq, toSignificant, if_pos rfl, Nat.cast_zero, zero_mul]
    rw [h]
    exact Rounds.zero
  · obtain ⟨n, hn, ⟨-, h⟩ | ⟨hcarry, h⟩⟩ := toSignificant_cases precision hx
    · rw [h, value_eq]
      exact Rounds.positive (inDecade_decade hx) hn
    · rw [h, value_eq, carry_value hp, ← hcarry]
      exact Rounds.positive (inDecade_decade hx) hn

/-- A positive number is rounded to digits of which the first is not 0. -/
theorem digits_toSignificant (hp : 1 ≤ precision) (hx : 0 < x) :
    10 ^ (precision - 1) ≤ (toSignificant precision x).digits ∧
      (toSignificant precision x).digits < 10 ^ precision := by
  obtain ⟨n, hn, ⟨hne, h⟩ | ⟨-, h⟩⟩ := toSignificant_cases precision hx
  · have hb := (inDecade_decade hx).nearest_bounds hp hn
    rw [h]
    exact ⟨hb.1, lt_of_le_of_ne hb.2 hne⟩
  · rw [h]
    exact ⟨le_rfl, Nat.pow_lt_pow_right (by norm_num) (by omega)⟩

/-- The exponent that `toSignificant` gives is that of the rounded number. -/
theorem isExponent_toSignificant (hp : 1 ≤ precision) (hx : 0 ≤ x) :
    IsExponent ((toSignificant precision x).value precision)
      (toSignificant precision x).exponent := by
  rcases hx.eq_or_lt with rfl | hx
  · left
    rw [value_eq, toSignificant, if_pos rfl, Nat.cast_zero, zero_mul]
    exact ⟨rfl, rfl⟩
  · right
    obtain ⟨hlow, hhigh⟩ := digits_toSignificant hp hx
    rw [value_eq]
    exact inDecade_digits hp hlow hhigh

/-- Numbers that are rounded to the same number are rounded to the same digits. -/
theorem toSignificant_eq_of_rounds {y value : ℚ} (hp : 1 ≤ precision) (hx : 0 ≤ x) (hy : 0 ≤ y)
    (hxv : Rounds precision x value) (hyv : Rounds precision y value) :
    toSignificant precision x = toSignificant precision y := by
  have hvx := (rounds_toSignificant hp hx).unique hxv
  have hvy := (rounds_toSignificant hp hy).unique hyv
  have hex := isExponent_toSignificant hp hx
  have hey := isExponent_toSignificant hp hy
  rw [hvx] at hex
  rw [hvy] at hey
  have hexponent := hex.unique hey
  have hdigits : (toSignificant precision x).digits = (toSignificant precision y).digits := by
    have hvalue := hvx.trans hvy.symm
    rw [value_eq, value_eq, hexponent] at hvalue
    exact_mod_cast mul_right_cancel₀ (lastUnit_pos precision _).ne' hvalue
  exact congrArg₂ Significant.mk hdigits hexponent

/-- The digits of the rounded number are also the nearest in its own decade. After a carry that is
not the decade of `x`, and the digits there count ten times as much. -/
theorem isNearestEven_toSignificant (hp : 1 ≤ precision) (hx : 0 ≤ x) :
    IsNearestEven (x / lastUnit precision (toSignificant precision x).exponent)
      (toSignificant precision x).digits := by
  rcases hx.eq_or_lt with rfl | hx
  · rw [toSignificant, if_pos rfl, zero_div]
    exact IsNearestEven.of_half (by norm_num) (by norm_num)
  · obtain ⟨n, hn, ⟨-, h⟩ | ⟨hcarry, h⟩⟩ := toSignificant_cases precision hx
    · rw [h]
      exact hn
    · rw [h]
      have hdecade := inDecade_decade hx
      have hhalf := abs_le.mp (hn.half (units_nonneg hx.le precision (decade x)))
      have hupper := hdecade.units_upper hp
      rw [hcarry, ten_pow_eq hp] at hhalf
      rw [ten_pow_eq hp] at hupper
      -- within half a unit below the next power of ten is within a twentieth of a larger unit
      have hclose : |x / lastUnit precision (decade x + 1) - ((10 ^ (precision - 1) : ℕ) : ℚ)|
          < 1 / 2 := by
        rw [lastUnit_succ, mul_comm, ← div_div, abs_lt]
        constructor <;> linarith [hhalf.2]
      exact IsNearestEven.of_half hclose.le fun h => absurd h hclose.ne

end

end ShaderDiagnostics.Decimal
