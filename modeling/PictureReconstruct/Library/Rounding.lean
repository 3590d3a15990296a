import Mathlib.Algebra.Order.Floor.Ring
import Mathlib.Data.Rat.Floor
import Mathlib.Tactic.Linarith
import Mathlib.Tactic.NormNum

/-! # Rounding to whole numbers

* `roundEven`: the nearest whole number, and the even one in the middle between two.
* `saturate`: the same within the range of an unsigned integer.
* `roundEven_error`, `roundEven_mono`, `saturate_error`, `saturate_mono`.
-/

namespace Library.Rounding

def roundEven (x : ℚ) : Int :=
  if x - ⌊x⌋ < 1 / 2 then ⌊x⌋
  else if 1 / 2 < x - ⌊x⌋ then ⌊x⌋ + 1
  else if ⌊x⌋ % 2 = 0 then ⌊x⌋ else ⌊x⌋ + 1

/-- Within `0`, …, `top` -/
def saturate (top : Nat) (x : ℚ) : Nat := min top (roundEven x).toNat

theorem roundEven_error (x : ℚ) : |x - roundEven x| ≤ 1 / 2 := by
  have low := Int.floor_le x
  have high := Int.lt_floor_add_one x
  rw [abs_le, roundEven]
  split_ifs
  · constructor <;> linarith
  · push_cast
    constructor <;> linarith
  · constructor <;> linarith
  · push_cast
    constructor <;> linarith

theorem roundEven_mono {x y : ℚ} (le : x ≤ y) : roundEven x ≤ roundEven y := by
  refine Int.not_lt.mp fun less => ?_
  have apart : (roundEven y : ℚ) + 1 ≤ roundEven x := by exact_mod_cast less
  have above := (abs_le.mp (roundEven_error x)).1
  have below := (abs_le.mp (roundEven_error y)).2
  -- both numbers are in the middle
  have same : x = y := by linarith
  rw [same] at less
  exact Int.lt_irrefl _ less

theorem saturate_mono (top : Nat) {x y : ℚ} (le : x ≤ y) : saturate top x ≤ saturate top y :=
  min_le_min_left top (Int.toNat_le_toNat (roundEven_mono le))

/-- Inside of the range nothing but the rounding is left. -/
theorem saturate_error {top : Nat} {x : ℚ} (low : 0 ≤ x) (high : x ≤ top) :
    |x - saturate top x| ≤ 1 / 2 := by
  have error := abs_le.mp (roundEven_error x)
  have bottom : 0 ≤ roundEven x := by
    by_contra negative
    have lower : (roundEven x : ℚ) ≤ -1 := by
      exact_mod_cast Int.le_sub_one_of_lt (Int.not_le.mp negative)
    linarith
  have inside : roundEven x ≤ top := by
    by_contra beyond
    have higher : (top : ℚ) + 1 ≤ roundEven x := by exact_mod_cast Int.not_le.mp beyond
    linarith
  have whole : ((saturate top x : Nat) : ℚ) = roundEven x := by
    have number : ((saturate top x : Nat) : Int) = roundEven x := by
      rw [saturate]
      omega
    exact_mod_cast number
  rw [whole]
  exact roundEven_error x

end Library.Rounding
