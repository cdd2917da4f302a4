import Mathlib.Algebra.Order.Field.Power
import Mathlib.Data.Int.Log
import Sgr.Arithmetic.Decimal

/-!
# Decimal arithmetic of a precision

The result of an operation on decimals is rounded to a number of digits, with ties to the even
digit. The relative error is half a unit of the last digit, and a number that has no more digits is
kept.
-/

namespace Arithmetic

/-- The exponent of the last of the digits of a number. -/
def lastPlace (precision : ℕ) (x : ℚ) : ℤ := Int.log 10 |x| + 1 - precision

/-- The nearest number with so many digits; of two nearest ones the one whose last digit is
even. -/
def rounded (precision : ℕ) (x : ℚ) : ℚ :=
  roundHalfEven (x / 10 ^ lastPlace precision x) * 10 ^ lastPlace precision x

section Nearest

variable {x y : ℚ} {n : ℤ}

theorem abs_roundHalfEven_sub_le (x : ℚ) : |(roundHalfEven x : ℚ) - x| ≤ 1 / 2 := by
  have hle := Int.floor_le x
  have hlt := Int.lt_floor_add_one x
  rw [abs_le]
  unfold roundHalfEven
  split
  · constructor <;> linarith
  · split
    · push_cast
      constructor <;> linarith
    · split
      · constructor <;> linarith
      · push_cast
        constructor <;> linarith

theorem roundHalfEven_intCast (n : ℤ) : roundHalfEven n = n := by simp [roundHalfEven]

/-- A number that is less than a half away from an integer is rounded to it. -/
theorem roundHalfEven_eq_of_abs_lt (h : |x - n| < 1 / 2) : roundHalfEven x = n := by
  have hround := abs_le.1 (abs_roundHalfEven_sub_le x)
  have hnear := abs_lt.1 h
  have hlow : (n : ℚ) - 1 < roundHalfEven x := by linarith
  have hhigh : (roundHalfEven x : ℚ) < n + 1 := by linarith
  have hlow' : n - 1 < roundHalfEven x := by exact_mod_cast hlow
  have hhigh' : roundHalfEven x < n + 1 := by exact_mod_cast hhigh
  omega

/-- Numbers that are more than one apart are not rounded to the same integer. -/
theorem roundHalfEven_lt (h : x + 1 < y) : roundHalfEven x < roundHalfEven y := by
  have hx := abs_le.1 (abs_roundHalfEven_sub_le x)
  have hy := abs_le.1 (abs_roundHalfEven_sub_le y)
  have hlt : (roundHalfEven x : ℚ) < roundHalfEven y := by linarith
  exact_mod_cast hlt

end Nearest

section Rounded

variable {precision : ℕ} {x : ℚ}

theorem rounded_zero (precision : ℕ) : rounded precision 0 = 0 := by
  simp [rounded, roundHalfEven]

/-- The error of a rounding, relative to the number. -/
theorem abs_rounded_sub_le (precision : ℕ) (x : ℚ) :
    |rounded precision x - x| ≤ 5 / 10 ^ precision * |x| := by
  rcases eq_or_ne x 0 with rfl | hx
  · simp [rounded_zero]
  have hpos : (0 : ℚ) < 10 ^ lastPlace precision x := by positivity
  have hplace : (10 : ℚ) ^ lastPlace precision x ≤ 10 / 10 ^ precision * |x| := by
    have hlog : (10 : ℚ) ^ Int.log 10 |x| ≤ |x| := by
      exact_mod_cast Int.zpow_log_le_self (by decide) (abs_pos.2 hx)
    rw [lastPlace, zpow_sub₀ (by norm_num), zpow_add₀ (by norm_num), zpow_one, zpow_natCast]
    calc (10 : ℚ) ^ Int.log 10 |x| * 10 / 10 ^ precision
        = 10 / 10 ^ precision * 10 ^ Int.log 10 |x| := by ring
      _ ≤ 10 / 10 ^ precision * |x| := mul_le_mul_of_nonneg_left hlog (by positivity)
  have hsplit : rounded precision x - x =
      (roundHalfEven (x / 10 ^ lastPlace precision x) - x / 10 ^ lastPlace precision x) *
        10 ^ lastPlace precision x := by
    rw [rounded, sub_mul, div_mul_cancel₀ _ hpos.ne']
  rw [hsplit, abs_mul, abs_of_pos hpos]
  calc |(roundHalfEven (x / 10 ^ lastPlace precision x) : ℚ) - x / 10 ^ lastPlace precision x| *
        10 ^ lastPlace precision x
      ≤ 1 / 2 * 10 ^ lastPlace precision x :=
        mul_le_mul_of_nonneg_right (abs_roundHalfEven_sub_le _) hpos.le
    _ ≤ 1 / 2 * (10 / 10 ^ precision * |x|) := by linarith
    _ = 5 / 10 ^ precision * |x| := by ring

/-- A number that has no more digits is kept. -/
theorem rounded_of_digits {n k : ℤ} (hn : |n| < 10 ^ precision) :
    rounded precision (n * 10 ^ k) = n * 10 ^ k := by
  rcases eq_or_ne n 0 with rfl | hne
  · simp [rounded_zero]
  have hx : (n : ℚ) * 10 ^ k ≠ 0 := mul_ne_zero (Int.cast_ne_zero.2 hne) (by positivity)
  have hplace : lastPlace precision (n * 10 ^ k) ≤ k := by
    have hlog : (10 : ℚ) ^ Int.log 10 |(n : ℚ) * 10 ^ k| ≤ |(n : ℚ) * 10 ^ k| := by
      exact_mod_cast Int.zpow_log_le_self (by decide) (abs_pos.2 hx)
    have hdigits : |(n : ℚ)| < 10 ^ (precision : ℤ) := by
      rw [zpow_natCast]
      exact_mod_cast hn
    have hlt : (10 : ℚ) ^ Int.log 10 |(n : ℚ) * 10 ^ k| < 10 ^ ((precision : ℤ) + k) := by
      refine hlog.trans_lt ?_
      rw [abs_mul, abs_of_pos (by positivity : (0 : ℚ) < 10 ^ k), zpow_add₀ (by norm_num)]
      exact mul_lt_mul_of_pos_right hdigits (by positivity)
    have hexponent := (zpow_lt_zpow_iff_right₀ (by norm_num)).1 hlt
    rw [lastPlace]
    omega
  obtain ⟨j, hj⟩ := Int.le.dest hplace
  have hinteger : (n : ℚ) * 10 ^ k / 10 ^ lastPlace precision (n * 10 ^ k) =
      ((n * 10 ^ j : ℤ) : ℚ) := by
    rw [mul_div_assoc, ← zpow_sub₀ (by norm_num)]
    have hdifference : k - lastPlace precision (n * 10 ^ k) = (j : ℤ) := by omega
    rw [hdifference, zpow_natCast]
    push_cast
    rfl
  rw [rounded, hinteger, roundHalfEven_intCast, ← hinteger, div_mul_cancel₀ _ (by positivity)]

/-- So is a number with some decimal places that has no more digits without the point. -/
theorem rounded_div_pow {n : ℤ} (places : ℕ) (hn : |n| < 10 ^ precision) :
    rounded precision (n / 10 ^ places) = n / 10 ^ places := by
  have hpower : (n : ℚ) / 10 ^ places = n * 10 ^ (-places : ℤ) := by
    rw [zpow_neg, zpow_natCast, div_eq_mul_inv]
  rw [hpower, rounded_of_digits hn]

end Rounded

end Arithmetic
