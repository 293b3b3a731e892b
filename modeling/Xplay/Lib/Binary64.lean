/-
**Rounding to binary64, on rationals.**

`binary64 x` is the nearest number of 53 significant bits, of two that are as near the one with an
even last bit; below the normal range the last bit is worth `2 ^ -1074`. There are no infinities:
the range has no upper end.

`binary64_error`: no result is further from the exact one than half of its last bit.
-/

import Mathlib.Algebra.Order.Floor.Ring
import Mathlib.Data.Rat.Floor
import Mathlib.Tactic.Linarith
import Mathlib.Tactic.NormNum

namespace Xplay.Lib

/-- The nearest integer; halfway between two, the even one. -/
def nearestEven (x : ℚ) : ℤ :=
  if Int.fract x < 1 / 2 ∨ Int.fract x = 1 / 2 ∧ ⌊x⌋ % 2 = 0 then ⌊x⌋ else ⌊x⌋ + 1

/-- The exponent of the first bit of `x`. -/
def leadingBit (x : ℚ) : ℤ :=
  let near : ℤ := x.num.natAbs.log2 - x.den.log2
  if 2 ^ near ≤ |x| then near else near - 1

/-- What the last of the 53 bits of `x` is worth. -/
def lastBit (x : ℚ) : ℚ := 2 ^ max (-1074) (leadingBit x - 52)

/-- **Rounding to the nearest `double`.** -/
def binary64 (x : ℚ) : ℚ := nearestEven (x / lastBit x) * lastBit x

theorem nearestEven_error (x : ℚ) : |(nearestEven x : ℚ) - x| ≤ 1 / 2 := by
  have parts : (⌊x⌋ : ℚ) = x - Int.fract x := (Int.self_sub_fract x).symm
  have least := Int.fract_nonneg x
  have most := Int.fract_lt_one x
  unfold nearestEven
  split_ifs with down
  · have near : Int.fract x ≤ 1 / 2 := down.elim le_of_lt fun tie => tie.1.le
    rw [parts, abs_le]
    constructor <;> linarith
  · have near : 1 / 2 ≤ Int.fract x := not_lt.mp fun less => down (Or.inl less)
    rw [Int.cast_add, Int.cast_one, parts, abs_le]
    constructor <;> linarith

/-- **The error is half of the last bit at most.** -/
theorem binary64_error (x : ℚ) : |binary64 x - x| ≤ lastBit x / 2 := by
  have positive : 0 < lastBit x := zpow_pos two_pos _
  have scaled : binary64 x - x = (nearestEven (x / lastBit x) - x / lastBit x) * lastBit x := by
    rw [sub_mul, div_mul_cancel₀ x positive.ne']
    rfl
  calc |binary64 x - x| = |(nearestEven (x / lastBit x) : ℚ) - x / lastBit x| * lastBit x := by
        rw [scaled, abs_mul, abs_of_pos positive]
    _ ≤ 1 / 2 * lastBit x := mul_le_mul_of_nonneg_right (nearestEven_error _) positive.le
    _ = lastBit x / 2 := by ring

/-- `0.1`, as it is stored. -/
example : binary64 (1 / 10) = 3602879701896397 / 2 ^ 55 := by decide +kernel

end Xplay.Lib
