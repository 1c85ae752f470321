import Mathlib.Algebra.Order.Floor.Ring
import Mathlib.Algebra.Order.Field.Basic
import Mathlib.Tactic.Linarith

/-! The conversion of a number to an integer as C makes it: toward zero. -/
namespace Truncate

variable {K : Type*} [Field K] [LinearOrder K] [FloorRing K] {x y : K}

def truncate (x : K) : ℤ := if 0 ≤ x then ⌊x⌋ else ⌈x⌉

theorem truncate_of_nonneg (nonneg : 0 ≤ x) : truncate x = ⌊x⌋ := if_pos nonneg

theorem truncate_of_neg (neg : x < 0) : truncate x = ⌈x⌉ := if_neg (not_le.mpr neg)

theorem truncate_mono (le : x ≤ y) : truncate x ≤ truncate y := by
  by_cases hx : 0 ≤ x
  · rw [truncate_of_nonneg hx, truncate_of_nonneg (hx.trans le)]
    exact Int.floor_mono le
  · rw [truncate_of_neg (not_le.mp hx)]
    by_cases hy : 0 ≤ y
    · rw [truncate_of_nonneg hy]
      calc ⌈x⌉ ≤ 0 := Int.ceil_nonpos.mpr (not_le.mp hx).le
        _ ≤ ⌊y⌋ := Int.floor_nonneg.mpr hy
    · rw [truncate_of_neg (not_le.mp hy)]
      exact Int.ceil_mono le

/-- Everything above `-1` becomes at least zero. -/
theorem truncate_nonneg (above : -1 < x) : 0 ≤ truncate x := by
  by_cases nonneg : 0 ≤ x
  · rw [truncate_of_nonneg nonneg]
    exact Int.floor_nonneg.mpr nonneg
  · rw [truncate_of_neg (not_le.mp nonneg)]
    have : (-1 : ℤ) < ⌈x⌉ := Int.lt_ceil.mpr (by simpa using above)
    omega

variable [IsStrictOrderedRing K]

@[simp] theorem truncate_intCast (n : ℤ) : truncate (n : K) = n := by
  by_cases nonneg : (0 : K) ≤ n
  · rw [truncate_of_nonneg nonneg, Int.floor_intCast]
  · rw [truncate_of_neg (not_le.mp nonneg), Int.ceil_intCast]

/-- Less than one is lost. -/
theorem truncate_bounds (x : K) : x - 1 < truncate x ∧ (truncate x : K) < x + 1 := by
  by_cases nonneg : 0 ≤ x
  · rw [truncate_of_nonneg nonneg]
    exact ⟨Int.sub_one_lt_floor x, by linarith [Int.floor_le x]⟩
  · rw [truncate_of_neg (not_le.mp nonneg)]
    exact ⟨by linarith [Int.le_ceil x], Int.ceil_lt_add_one x⟩

end Truncate
