import Mathlib
import ShaderDiagnostics.Proofs.Binary.Nearest
import ShaderDiagnostics.Proofs.Binary.Spacing
import ShaderDiagnostics.Proofs.Decimal.General
/-!
# Short decimals pass through the 32-bit format

A decimal of at most six significant digits that is kept in a 32-bit number nearest to it is what
the text of that number stands for (`float32_text_recovers`). Half a unit of the number's last bit
is a smaller part of the decimal than half a unit of its sixth digit, so rounding to six digits finds
the decimal again (`Rounds.of_near`). A number that lies just below a power of ten has a finer sixth
digit than the power itself; the rounding then carries, and reaches it all the same.
-/

namespace ShaderDiagnostics.Decimal

open Binary Binary.Number

/-! ## Short decimals -/

section

variable {precision : ℕ} {x d : ℚ} {e : ℤ}

/-- `d` is a decimal of at most `precision` significant digits, on any scale. -/
def IsShortDecimal (precision : ℕ) (d : ℚ) : Prop :=
  ∃ n k : ℤ, |n| < 10 ^ precision ∧ d = n * 10 ^ k

/-- The sign does not count among the digits of a short decimal. -/
theorem IsShortDecimal.abs (h : IsShortDecimal precision d) : IsShortDecimal precision |d| := by
  obtain ⟨n, k, hn, rfl⟩ := h
  refine ⟨|n|, k, by rwa [abs_abs], ?_⟩
  rw [abs_mul, abs_of_pos (by positivity : (0 : ℚ) < 10 ^ k), Int.cast_abs]

/-- In its decade a short decimal is a whole number of units of the last digit. -/
theorem IsShortDecimal.exists_units (h : IsShortDecimal precision d) (hd : InDecade d e) :
    ∃ n : ℕ, d = n * lastUnit precision e := by
  obtain ⟨n, k, hn, rfl⟩ := h
  have hpos : 0 < n := by
    have := pos_of_mul_pos_left hd.pos (by positivity)
    exact_mod_cast this
  rw [abs_of_pos hpos] at hn
  have hk : e - ((precision : ℤ) - 1) ≤ k := by
    have hlt : (10 : ℚ) ^ e < 10 ^ (precision + k) := by
      rw [zpow_add₀ (by norm_num), zpow_natCast]
      refine lt_of_le_of_lt hd.lower (mul_lt_mul_of_pos_right ?_ (by positivity))
      exact_mod_cast hn
    rw [zpow_lt_zpow_iff_right₀ (by norm_num)] at hlt
    omega
  refine ⟨n.toNat * 10 ^ (k - (e - ((precision : ℤ) - 1))).toNat, ?_⟩
  have hcast : ((n.toNat : ℕ) : ℚ) = n := by exact_mod_cast Int.toNat_of_nonneg hpos.le
  push_cast
  rw [hcast, lastUnit, mul_assoc, ← zpow_natCast, Int.toNat_of_nonneg (by omega),
    ← zpow_add₀ (by norm_num), sub_add_cancel]

/-! ## Rounding back to a short decimal -/

/-- A small part of a number is less than half a unit of its last digit. -/
theorem two_mul_dist_lt_lastUnit (hp : 1 ≤ precision) (hle : d ≤ 10 ^ (e + 1))
    (hnear : 2 * 10 ^ precision * |x - d| < d) : 2 * |x - d| < lastUnit precision e := by
  rw [zpow_succ_eq hp] at hle
  push_cast at hle
  have hmul : 10 ^ precision * (2 * |x - d|) < 10 ^ precision * lastUnit precision e := by
    linarith
  exact lt_of_mul_lt_mul_left hmul (by positivity)

/-- A multiple of the last unit that is near enough is what a number is rounded to. -/
theorem Rounds.of_units (hx : InDecade x e) {n : ℕ} (hd : d = n * lastUnit precision e)
    (hnear : 2 * |x - d| < lastUnit precision e) : Rounds precision x d := by
  have hunit := lastUnit_pos precision e
  have hhalf : |x / lastUnit precision e - n| < 1 / 2 := by
    rw [hd, abs_sub_mul_unit hunit] at hnear
    exact lt_of_mul_lt_mul_right (by linarith) hunit.le
  rw [hd]
  exact Rounds.positive hx (IsNearestEven.of_half hhalf.le fun h => absurd h hhalf.ne)

/-- Two multiples of a unit of which one is larger are a unit apart. -/
theorem add_unit_le {unit : ℚ} (hunit : 0 < unit) {m n : ℕ} (h : m < n) :
    m * unit + unit ≤ n * unit := by
  have hn : (m : ℚ) + 1 ≤ n := by exact_mod_cast h
  calc m * unit + unit = (m + 1) * unit := by ring
    _ ≤ n * unit := mul_le_mul_of_nonneg_right hn hunit.le

/-- A multiple of the last unit is not near the next decade. -/
theorem InDecade.lt_of_near (hd : InDecade d e) (hp : 1 ≤ precision) {n : ℕ}
    (hn : d = n * lastUnit precision e) (hnear : 2 * |x - d| < lastUnit precision e) :
    x < 10 ^ (e + 1) := by
  have hunit := lastUnit_pos precision e
  have hupper := hd.upper
  rw [zpow_succ_eq hp, hn] at hupper
  have hstep := add_unit_le hunit (by exact_mod_cast lt_of_mul_lt_mul_right hupper hunit.le)
  rw [← zpow_succ_eq hp, ← hn] at hstep
  have hdist := le_abs_self (x - d)
  linarith

/-- Of the multiples of the last unit, only the power of ten that starts the decade is near a number
below it. -/
theorem InDecade.eq_of_near_of_lt (hd : InDecade d e) (hp : 1 ≤ precision) {n : ℕ}
    (hn : d = n * lastUnit precision e) (hnear : 2 * |x - d| < lastUnit precision e)
    (hx : x < 10 ^ e) : d = 10 ^ e := by
  have hunit := lastUnit_pos precision e
  have hfirst : (10 : ℚ) ^ e = ((10 ^ (precision - 1) : ℕ) : ℚ) * lastUnit precision e := by
    push_cast
    exact (pow_mul_lastUnit hp e).symm
  have hlower := hd.lower
  rw [hfirst, hn] at hlower
  have hle : 10 ^ (precision - 1) ≤ n := by exact_mod_cast le_of_mul_le_mul_right hlower hunit
  rcases hle.eq_or_lt with heq | hlt
  · rw [hfirst, heq]
    exact hn
  · have hstep := add_unit_le hunit hlt
    rw [← hfirst, ← hn] at hstep
    have hdist := neg_le_abs (x - d)
    linarith

/-- A number near a power of ten and below it lies in the decade before. -/
theorem inDecade_pred (hp : 1 ≤ precision) (hnear : 2 * |x - 10 ^ e| < lastUnit precision e)
    (hx : x < 10 ^ e) : InDecade x (e - 1) := by
  have hten : (10 : ℚ) ^ e = 10 * 10 ^ (e - 1) := by
    rw [← zpow_one_add₀ (by norm_num), add_sub_cancel]
  have hpos : (0 : ℚ) < 10 ^ (e - 1) := by positivity
  have hunit : lastUnit precision e ≤ 10 ^ e := by
    rw [← pow_mul_lastUnit hp]
    exact le_mul_of_one_le_left (lastUnit_pos precision e).le (one_le_pow₀ (by norm_num))
  have hdist := neg_le_abs (x - 10 ^ e)
  constructor
  · linarith
  · rwa [sub_add_cancel]

/-- A number near enough to a short decimal, in proportion to its size, is rounded to it. -/
theorem Rounds.of_near (hp : 1 ≤ precision) (hshort : IsShortDecimal precision d) (hd : 0 < d)
    (hnear : 2 * 10 ^ precision * |x - d| < d) : Rounds precision x d := by
  obtain ⟨e, hdecade⟩ : ∃ e, InDecade d e := ⟨decade d, inDecade_decade hd⟩
  obtain ⟨n, hn⟩ := hshort.exists_units hdecade
  have hclose := two_mul_dist_lt_lastUnit hp hdecade.upper.le hnear
  rcases le_or_gt (10 ^ e) x with hle | hlt
  · exact Rounds.of_units ⟨hle, hdecade.lt_of_near hp hn hclose⟩ hn hclose
  · -- the number lies in the decade before, where rounding it carries
    obtain rfl := hdecade.eq_of_near_of_lt hp hn hclose hlt
    have hcarry : (10 : ℚ) ^ e = ((10 ^ precision : ℕ) : ℚ) * lastUnit precision (e - 1) := by
      rw [← zpow_succ_eq hp, sub_add_cancel]
    have hle : (10 : ℚ) ^ e ≤ 10 ^ (e - 1 + 1) := by rw [sub_add_cancel]
    exact Rounds.of_units (inDecade_pred hp hclose hlt) hcarry
      (two_mul_dist_lt_lastUnit hp hle hnear)

/-! ## The text of a number near a short decimal -/

/-- A number that is nearer to `d` than zero is has the sign of `d`. -/
theorem sign_of_near {negative : Bool} {m : ℚ} (hm : 0 ≤ m)
    (hnear : |d - (if negative then -m else m)| < |d|) :
    (if negative then -|d| else |d|) = d ∧
      |m - (|d|)| = |d - (if negative then -m else m)| := by
  cases negative with
  | false =>
      simp only [Bool.false_eq_true, if_false] at hnear ⊢
      have hd : 0 < d := by
        by_contra hc
        rw [abs_of_nonpos (not_lt.mp hc), abs_of_nonpos (by linarith)] at hnear
        linarith
      rw [abs_of_pos hd]
      exact ⟨rfl, abs_sub_comm m d⟩
  | true =>
      simp only [if_true, sub_neg_eq_add] at hnear ⊢
      have hd : d < 0 := by
        by_contra hc
        rw [abs_of_nonneg (not_lt.mp hc), abs_of_nonneg (by linarith)] at hnear
        linarith
      rw [abs_of_neg hd, neg_neg, sub_neg_eq_add, add_comm]
      exact ⟨rfl, rfl⟩

/-- The text of a number near a short decimal, in proportion to its size, stands for the decimal. -/
theorem value_of_near (hp : 1 ≤ precision) (hshort : IsShortDecimal precision d)
    {number : Number} (hvalue : number.value? = some x)
    (hnear : 2 * 10 ^ precision * |d - x| < |d|) :
    ∃ r, Reading.ofText? (numberText precision number) = some r ∧ r.value = d := by
  obtain ⟨negative, m, q, rfl, rfl⟩ := value?_eq_some hvalue
  have hm := magnitude_nonneg m q
  have hscale : (1 : ℚ) ≤ 2 * 10 ^ precision := by
    have := one_le_pow₀ (by norm_num : (1 : ℚ) ≤ 10) (n := precision)
    linarith
  have hsmall := lt_of_le_of_lt (le_mul_of_one_le_left (abs_nonneg _) hscale) hnear
  obtain ⟨hsign, hdist⟩ := sign_of_near hm hsmall
  have hpos : 0 < |d| := lt_of_le_of_lt (abs_nonneg _) hsmall
  rw [← hdist] at hnear
  have hdigits := (rounds_toSignificant hp hm).unique (Rounds.of_near hp hshort.abs hpos hnear)
  refine ⟨_, ofText?_magnitudeText hp hm negative, ?_⟩
  unfold Reading.value
  rw [hdigits]
  exact hsign

end

/-! ## The 32-bit format -/

/-- `word` is a finite 32-bit number to which no other lies closer to `d`. -/
def NearestSingle (d : ℚ) (word : UInt32) : Prop :=
  ∃ x, (Primitive.single word).value? = some x ∧
    ∀ other y, (Primitive.single other).value? = some y → |d - x| ≤ |d - y|

/-- No other number lies closer than one that is within half of the gap around itself. -/
theorem nearestSingle_of_gap {d x : ℚ} {word : UInt32}
    (hx : (Primitive.single word).value? = some x) (hnear : 2 ^ 25 * |d - x| ≤ |x|) :
    NearestSingle d word := by
  refine ⟨x, hx, ?_⟩
  intro other y hy
  by_cases hne : x = y
  · rw [hne]
  · have hgap := Format.abs_le_mul_dist hx hy hne
    rw [show single.fractionBits + 1 = 24 from rfl] at hgap
    have htriangle : |x - y| ≤ |x - d| + |d - y| := abs_sub_le x d y
    rw [abs_sub_comm x d] at htriangle
    linarith

/-- A number nearest to `d` is within half a unit of its last bit. -/
theorem NearestSingle.near {d : ℚ} {word : UInt32} (h : NearestSingle d word)
    (hlow : 2 ^ (-126 : ℤ) ≤ |d|) (hhigh : |d| ≤ (2 ^ 24 - 1) * 2 ^ 104) :
    ∃ x, (Primitive.single word).value? = some x ∧ 2 ^ 24 * |d - x| ≤ |d| := by
  obtain ⟨x, hx, hclosest⟩ := h
  have hsmallest : single.smallestNormal = 2 ^ (-126 : ℤ) := by decide +kernel
  have hlargest : single.largest = (2 ^ 24 - 1) * 2 ^ 104 := by decide +kernel
  rw [← hsmallest] at hlow
  rw [← hlargest] at hhigh
  obtain ⟨other, hother, y, hy, herror⟩ := Format.exists_near hlow hhigh
  have hword : (UInt32.ofNat other).toNat = other := UInt32.toNat_ofNat_of_lt' hother
  have hle := hclosest (UInt32.ofNat other) y (by rw [Primitive.single, hword, hy])
  refine ⟨x, hx, le_trans ?_ herror⟩
  exact mul_le_mul_of_nonneg_left hle (by positivity)

/-- **A short decimal in a 32-bit number prints back as itself.** The text of a 32-bit number that
is nearest to a decimal of at most six significant digits stands for the decimal exactly, from the
smallest number with the implicit leading bit up to the largest finite one, on either side of
zero. -/
theorem float32_text_recovers (d : ℚ) (word : UInt32) (hshort : IsShortDecimal 6 d)
    (hlow : 2 ^ (-126 : ℤ) ≤ |d|) (hhigh : |d| ≤ (2 ^ 24 - 1) * 2 ^ 104)
    (hnearest : NearestSingle d word) :
    ∃ r, Reading.ofText? (Primitive.float32 word).text.toList = some r ∧ r.value = d := by
  obtain ⟨x, hx, herror⟩ := hnearest.near hlow hhigh
  rw [Primitive.text, String.toList_ofList]
  apply value_of_near (by decide) hshort hx
  -- 2 * 10 ^ 6 is below 2 ^ 24
  have hpos : 0 < |d| := lt_of_lt_of_le (by positivity) hlow
  nlinarith [abs_nonneg (d - x)]

/-- The number nearest to minus a ten-thousandth lies between it and zero, so its own sixth digit
counts a tenth of that of the decimal. -/
theorem float32_text_recovers_tenThousandth :
    (Primitive.single 0xB8D1B717).value? = some (-(13743895 / 137438953472)) ∧
      IsShortDecimal 6 (-(1 / 10000)) ∧ NearestSingle (-(1 / 10000)) 0xB8D1B717 ∧
      ∃ r, Reading.ofText? (Primitive.float32 0xB8D1B717).text.toList = some r ∧
        r.value = -(1 / 10000) := by
  have hx : (Primitive.single 0xB8D1B717).value? = some (-(13743895 / 137438953472)) := by
    decide +kernel
  have hshort : IsShortDecimal 6 (-(1 / 10000)) := ⟨-1, -4, by norm_num, by norm_num⟩
  have hnearest : NearestSingle (-(1 / 10000)) 0xB8D1B717 := by
    apply nearestSingle_of_gap hx
    norm_num [abs_div, abs_of_pos, abs_of_neg]
  refine ⟨hx, hshort, hnearest, ?_⟩
  apply float32_text_recovers _ _ hshort _ _ hnearest
  · norm_num [abs_div]
  · norm_num [abs_div]

end ShaderDiagnostics.Decimal
