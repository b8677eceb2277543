import Mathlib.Data.Int.Log
import Mathlib.Data.Rat.Floor
import Mathlib.Tactic.Linarith
import Mathlib.Tactic.NormNum
import Mathlib.Tactic.Positivity
import Mathlib.Tactic.Ring

/-! # Rounding to double precision

Positive rational numbers rounded to 53 significant bits, to the nearest and half to even.
The exponent is not bounded. -/

namespace Cuttlefish.DoubleRounding

def roundHalfEven (number : ℚ) : ℤ :=
  let below := ⌊number⌋
  if number - below < 1 / 2 then below
  else if 1 / 2 < number - below then below + 1
  else if below % 2 = 0 then below
  else below + 1

theorem abs_roundHalfEven_sub_le (number : ℚ) : |(roundHalfEven number : ℚ) - number| ≤ 1 / 2 := by
  have lower := Int.floor_le number
  have upper := Int.lt_floor_add_one number
  unfold roundHalfEven
  dsimp only
  rw [abs_le]
  split
  · constructor
    · linarith
    · linarith
  · split
    · push_cast
      constructor
      · linarith
      · linarith
    · split
      · constructor
        · linarith
        · linarith
      · push_cast
        constructor
        · linarith
        · linarith

/-- The distance of the numbers with 53 bits around a positive number. -/
def unit (number : ℚ) : ℚ := 2 ^ (Int.log 2 number - 52)

def round (number : ℚ) : ℚ := roundHalfEven (number / unit number) * unit number

section

variable {number : ℚ}

theorem unit_pos (number : ℚ) : 0 < unit number := zpow_pos (by norm_num) _

theorem unit_le (positive : 0 < number) : unit number * 2 ^ 52 ≤ number := by
  have log := Int.zpow_log_le_self (b := 2) (by norm_num) positive
  have split : unit number * 2 ^ 52 = 2 ^ Int.log 2 number := by
    rw [unit, ← zpow_natCast, ← zpow_add₀ (by norm_num)]
    norm_num
  rw [split]
  exact_mod_cast log

theorem abs_round_sub_le (positive : 0 < number) : |round number - number| ≤ number / 2 ^ 53 := by
  have unitPos := unit_pos number
  have small := unit_le positive
  have scaled : round number - number =
      ((roundHalfEven (number / unit number) : ℚ) - number / unit number) * unit number := by
    rw [round, sub_mul, div_mul_cancel₀ _ unitPos.ne']
  rw [scaled, abs_mul, abs_of_pos unitPos]
  calc |(roundHalfEven (number / unit number) : ℚ) - number / unit number| * unit number
      ≤ 1 / 2 * unit number :=
        mul_le_mul_of_nonneg_right (abs_roundHalfEven_sub_le _) unitPos.le
    _ ≤ number / 2 ^ 53 := by
        rw [le_div_iff₀ (by norm_num)]
        linarith

theorem round_le (positive : 0 < number) : round number ≤ number * (1 + 1 / 2 ^ 53) := by
  have error := (abs_le.mp (abs_round_sub_le positive)).2
  linarith

theorem le_round (positive : 0 < number) : number * (1 - 1 / 2 ^ 53) ≤ round number := by
  have error := (abs_le.mp (abs_round_sub_le positive)).1
  linarith

theorem round_zero : round 0 = 0 := by
  have zero : roundHalfEven 0 = 0 := by
    norm_num [roundHalfEven]
  rw [round, zero_div, zero]
  norm_num

theorem round_pos (positive : 0 < number) : 0 < round number :=
  lt_of_lt_of_le (mul_pos positive (by norm_num)) (le_round positive)

theorem round_div_round_le {dividend divisor : ℚ} (dividendPos : 0 < dividend)
    (divisorPos : 0 < divisor) :
    round (round dividend / round divisor) ≤ dividend / divisor * (1 + 1 / 2 ^ 51) := by
  have quotientPos : 0 < dividend / divisor := div_pos dividendPos divisorPos
  have lowered : 0 < divisor * (1 - 1 / 2 ^ 53) := mul_pos divisorPos (by norm_num)
  calc round (round dividend / round divisor)
      ≤ round dividend / round divisor * (1 + 1 / 2 ^ 53) :=
        round_le (div_pos (round_pos dividendPos) (round_pos divisorPos))
    _ ≤ dividend * (1 + 1 / 2 ^ 53) / (divisor * (1 - 1 / 2 ^ 53)) * (1 + 1 / 2 ^ 53) := by
        apply mul_le_mul_of_nonneg_right _ (by norm_num)
        exact div_le_div₀ (mul_pos dividendPos (by norm_num)).le (round_le dividendPos) lowered
          (le_round divisorPos)
    _ = dividend / divisor * ((1 + 1 / 2 ^ 53) * (1 + 1 / 2 ^ 53) / (1 - 1 / 2 ^ 53)) := by
        rw [mul_div_mul_comm]
        ring
    _ ≤ dividend / divisor * (1 + 1 / 2 ^ 51) :=
        mul_le_mul_of_nonneg_left (by norm_num) quotientPos.le

end

end Cuttlefish.DoubleRounding
