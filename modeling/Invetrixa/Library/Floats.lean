import Mathlib.Algebra.Order.Round
import Mathlib.Data.Int.ConditionallyCompleteOrder
import Mathlib.Data.Int.Log
import Mathlib.Data.Rat.Floor
import Mathlib.Tactic.GCongr
import Mathlib.Tactic.Linarith
import Mathlib.Tactic.NormNum
import Mathlib.Tactic.Positivity
import Mathlib.Tactic.Ring

/-!
# Floating-point numbers

Rounding to the nearest number of a format, halves to the even one. The numbers of a format have so
many digits in some base, of which the last is at least at some exponent; there is no largest number
here, so that a result is rounded however large it is.

## Main definitions

- `roundEven` — the nearest integer, halves to the even one
- `Format.round` — the nearest number of a format
- `binary64` — the format of doubles

## Main results

- `Format.round_mono` — rounding keeps the order
- `Format.abs_round_sub_le` — how far a rounded number is off
-/

namespace Floats

/-- The nearest integer, halves to the even one. -/
def roundEven (x : ℚ) : ℤ :=
  if x - ⌊x⌋ < 1 / 2 then ⌊x⌋
  else if 1 / 2 < x - ⌊x⌋ then ⌊x⌋ + 1
  else if ⌊x⌋ % 2 = 0 then ⌊x⌋ else ⌊x⌋ + 1

section RoundEven

variable {x y : ℚ}

theorem floor_le_roundEven (x : ℚ) : ⌊x⌋ ≤ roundEven x := by
  rw [roundEven]
  split_ifs <;> omega

theorem roundEven_le (x : ℚ) : roundEven x ≤ ⌊x⌋ + 1 := by
  rw [roundEven]
  split_ifs <;> omega

@[simp]
theorem roundEven_intCast (n : ℤ) : roundEven n = n := by
  rw [roundEven, Int.floor_intCast, sub_self, if_pos (by norm_num)]

theorem roundEven_mono : Monotone roundEven := by
  intro x y hxy
  rcases (Int.floor_mono hxy).eq_or_lt with hfloor | hfloor
  · -- between the same integers, the one that is further up is not rounded to the lower
    have hdiff : x - ⌊y⌋ ≤ y - ⌊y⌋ := sub_le_sub_right hxy _
    rw [roundEven, roundEven, hfloor]
    split_ifs <;> first | omega | linarith
  · have hx := roundEven_le x
    have hy := floor_le_roundEven y
    omega

/-- The nearest integer is at most a half away. -/
theorem abs_roundEven_sub_le (x : ℚ) : |(roundEven x : ℚ) - x| ≤ 1 / 2 := by
  have hlow : 0 ≤ x - ⌊x⌋ := sub_nonneg.mpr (Int.floor_le x)
  have hhigh : x - ⌊x⌋ < 1 := by linarith [Int.lt_floor_add_one x]
  rw [abs_le, roundEven]
  split_ifs <;> push_cast <;> constructor <;> linarith

end RoundEven

/-- A format: in which base, how many digits a number has, and the least exponent of the last. -/
structure Format where
  base : ℕ
  precision : ℕ
  minExponent : ℤ
  one_lt_base : 1 < base
  one_le_precision : 1 ≤ precision

namespace Format

variable (f : Format)

/-- The exponent of the last digit of the numbers of the format around `x`. -/
def exponent (x : ℚ) : ℤ := max (Int.log f.base x + 1 - f.precision) f.minExponent

/-- What the last digit of the numbers of the format around `x` counts. -/
def unit (x : ℚ) : ℚ := (f.base : ℚ) ^ f.exponent x

/-- The number of the format nearest to a number that is not negative. -/
def nearest (x : ℚ) : ℚ := roundEven (x / f.unit x) * f.unit x

/-- The number of the format nearest to `x`. -/
def round (x : ℚ) : ℚ := if 0 ≤ x then f.nearest x else -f.nearest (-x)

variable {f} {x y : ℚ} {n : ℤ}

theorem base_pos : (0 : ℚ) < f.base := Nat.cast_pos.mpr (zero_lt_one.trans f.one_lt_base)

theorem one_le_base : (1 : ℚ) ≤ f.base := Nat.one_le_cast.mpr f.one_lt_base.le

theorem unit_pos (x : ℚ) : 0 < f.unit x := zpow_pos base_pos _

theorem nearest_nonneg (hx : 0 ≤ x) : 0 ≤ f.nearest x := by
  have hfloor : 0 ≤ ⌊x / f.unit x⌋ := Int.floor_nonneg.mpr (div_nonneg hx (unit_pos x).le)
  have hround : 0 ≤ roundEven (x / f.unit x) := hfloor.trans (floor_le_roundEven _)
  exact mul_nonneg (Int.cast_nonneg hround) (unit_pos x).le

@[simp]
theorem nearest_zero : f.nearest 0 = 0 := by
  have hround : roundEven 0 = 0 := roundEven_intCast 0
  rw [nearest, zero_div, hround, Int.cast_zero, zero_mul]

@[simp]
theorem round_zero : f.round 0 = 0 := by rw [round, if_pos (le_refl 0), nearest_zero]

/-- The powers of the base from the unit up are multiples of it. -/
theorem zpow_eq_mul_unit (hn : f.exponent x ≤ n) :
    (f.base : ℚ) ^ n = (((f.base : ℤ) ^ (n - f.exponent x).toNat : ℤ) : ℚ) * f.unit x := by
  have hnat : ((n - f.exponent x).toNat : ℤ) = n - f.exponent x := Int.toNat_of_nonneg (by omega)
  rw [unit]
  push_cast
  rw [← zpow_natCast, hnat, ← zpow_add₀ base_pos.ne', sub_add_cancel]

theorem nearest_le_zpow (hn : f.exponent x ≤ n) (hx : x ≤ (f.base : ℚ) ^ n) :
    f.nearest x ≤ (f.base : ℚ) ^ n := by
  rw [zpow_eq_mul_unit hn] at hx ⊢
  rw [← div_le_iff₀ (unit_pos x)] at hx
  have hround := roundEven_mono hx
  rw [roundEven_intCast] at hround
  exact mul_le_mul_of_nonneg_right (Int.cast_le.mpr hround) (unit_pos x).le

theorem zpow_le_nearest (hn : f.exponent x ≤ n) (hx : (f.base : ℚ) ^ n ≤ x) :
    (f.base : ℚ) ^ n ≤ f.nearest x := by
  rw [zpow_eq_mul_unit hn] at hx ⊢
  rw [← le_div_iff₀ (unit_pos x)] at hx
  have hround := roundEven_mono hx
  rw [roundEven_intCast] at hround
  exact mul_le_mul_of_nonneg_right (Int.cast_le.mpr hround) (unit_pos x).le

theorem nearest_mono (hx : 0 ≤ x) (hxy : x ≤ y) : f.nearest x ≤ f.nearest y := by
  rcases hx.eq_or_lt with rfl | hpos
  · rw [nearest_zero]
    exact nearest_nonneg hxy
  have hlog : Int.log f.base x ≤ Int.log f.base y := Int.log_mono_right hpos hxy
  have hexponent : f.exponent x ≤ f.exponent y := by
    simp only [exponent]
    omega
  rcases hexponent.eq_or_lt with hsame | hless
  · have hunit : f.unit x = f.unit y := by rw [unit, unit, hsame]
    rw [nearest, nearest, hunit]
    have hround := roundEven_mono (div_le_div_of_nonneg_right hxy (unit_pos (f := f) y).le)
    exact mul_le_mul_of_nonneg_right (Int.cast_le.mpr hround) (unit_pos y).le
  · -- a power of the base lies between the two, and it is a number of the format around each
    have hprecision := f.one_le_precision
    have hbelow : f.exponent x ≤ Int.log f.base y ∧ f.exponent y ≤ Int.log f.base y ∧
        Int.log f.base x + 1 ≤ Int.log f.base y := by
      simp only [exponent] at hless ⊢
      omega
    have hx : x ≤ (f.base : ℚ) ^ Int.log f.base y := by
      have hlt : x < (f.base : ℚ) ^ (Int.log f.base x + 1) :=
        Int.lt_zpow_succ_log_self f.one_lt_base x
      exact hlt.le.trans (zpow_le_zpow_right₀ one_le_base hbelow.2.2)
    have hy : (f.base : ℚ) ^ Int.log f.base y ≤ y :=
      Int.zpow_log_le_self f.one_lt_base (hpos.trans_le hxy)
    exact (nearest_le_zpow hbelow.1 hx).trans (zpow_le_nearest hbelow.2.1 hy)

/-- Rounding keeps the order. -/
theorem round_mono : Monotone f.round := by
  intro x y hxy
  rw [round, round]
  by_cases hx : 0 ≤ x
  · rw [if_pos hx, if_pos (hx.trans hxy)]
    exact nearest_mono hx hxy
  · rw [if_neg hx]
    have hx' : 0 ≤ f.nearest (-x) := nearest_nonneg (neg_nonneg.mpr (not_le.mp hx).le)
    by_cases hy : 0 ≤ y
    · rw [if_pos hy]
      exact (neg_nonpos.mpr hx').trans (nearest_nonneg hy)
    · rw [if_neg hy]
      exact neg_le_neg (nearest_mono (neg_nonneg.mpr (not_le.mp hy).le) (neg_le_neg hxy))

/-- A unit, by the size of the number. -/
theorem unit_le (hx : 0 < x) :
    f.unit x ≤ x * f.base / (f.base : ℚ) ^ f.precision + (f.base : ℚ) ^ f.minExponent := by
  have hbase : (0 : ℚ) < f.base := base_pos
  have hlog : (f.base : ℚ) ^ Int.log f.base x ≤ x := Int.zpow_log_le_self f.one_lt_base hx
  have hfirst : 0 ≤ x * f.base / (f.base : ℚ) ^ f.precision := by positivity
  have hsecond : 0 < (f.base : ℚ) ^ f.minExponent := zpow_pos hbase _
  rw [unit, exponent]
  rcases le_total f.minExponent (Int.log f.base x + 1 - f.precision) with hmin | hmin
  · rw [max_eq_left hmin, zpow_sub₀ hbase.ne', zpow_add_one₀ hbase.ne', zpow_natCast]
    have hdiv : (f.base : ℚ) ^ Int.log f.base x * f.base / (f.base : ℚ) ^ f.precision ≤
        x * f.base / (f.base : ℚ) ^ f.precision := by gcongr
    linarith
  · rw [max_eq_right hmin]
    linarith

theorem abs_nearest_sub_le (hx : 0 ≤ x) : |f.nearest x - x| ≤
    (x * f.base / (f.base : ℚ) ^ f.precision + (f.base : ℚ) ^ f.minExponent) / 2 := by
  rcases hx.eq_or_lt with rfl | hpos
  · have hmin : 0 < (f.base : ℚ) ^ f.minExponent := zpow_pos base_pos _
    rw [nearest_zero, sub_zero, abs_zero, zero_mul, zero_div, zero_add]
    linarith
  have hunit := unit_pos (f := f) x
  have hscaled : f.nearest x - x = (roundEven (x / f.unit x) - x / f.unit x) * f.unit x := by
    rw [sub_mul, div_mul_cancel₀ x hunit.ne', nearest]
  rw [hscaled, abs_mul, abs_of_pos hunit]
  calc |(roundEven (x / f.unit x) : ℚ) - x / f.unit x| * f.unit x
      ≤ 1 / 2 * f.unit x := mul_le_mul_of_nonneg_right (abs_roundEven_sub_le _) hunit.le
    _ = f.unit x / 2 := by ring
    _ ≤ _ := div_le_div_of_nonneg_right (unit_le hpos) zero_le_two

/-- A number is rounded by half a unit at most, which is so much of the number or the least. -/
theorem abs_round_sub_le (x : ℚ) : |f.round x - x| ≤
    (|x| * f.base / (f.base : ℚ) ^ f.precision + (f.base : ℚ) ^ f.minExponent) / 2 := by
  rw [round]
  split
  · next hx =>
    rw [abs_of_nonneg hx]
    exact abs_nearest_sub_le hx
  · next hx =>
    have hneg : 0 ≤ -x := neg_nonneg.mpr (not_le.mp hx).le
    rw [show -f.nearest (-x) - x = -(f.nearest (-x) - -x) by ring, abs_neg, abs_of_neg (not_le.mp hx)]
    exact abs_nearest_sub_le hneg

end Format

/-- The format of doubles. -/
def binary64 : Format where
  base := 2
  precision := 53
  minExponent := -1074
  one_lt_base := by norm_num
  one_le_precision := by norm_num

end Floats
