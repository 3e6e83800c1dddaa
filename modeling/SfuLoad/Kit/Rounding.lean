import Mathlib.Algebra.Order.Floor.Div
import Mathlib.Data.Nat.Log

/-!
# Rounding up to leading digits

A number is rounded up to a multiple of a power of the base that leaves it two
digits. The power grows with the number, and a number may be rounded up to the next
power of the base, but never past it. That is why rounding keeps the order, also of
numbers with different steps.
-/

namespace Kit.Rounding

/-- The least multiple of a step that is not below a value. -/
def multipleAbove (step value : Nat) : Nat := (value + step - 1) / step * step

/-- The multiple is the ceiling of the quotient, times the step. -/
theorem multipleAbove_eq (step value : Nat) : multipleAbove step value = value ⌈/⌉ step * step := by
  rw [multipleAbove, Nat.ceilDiv_eq_add_pred_div]

/-- Rounding up does not lower a number. -/
theorem le_multipleAbove {step : Nat} (positive : 0 < step) (value : Nat) :
    value ≤ multipleAbove step value := by
  rw [multipleAbove_eq, Nat.mul_comm]
  exact le_smul_ceilDiv positive

/-- No other multiple lies between. -/
theorem multipleAbove_le {step bound value : Nat} (positive : 0 < step) (divides : step ∣ bound)
    (below : value ≤ bound) : multipleAbove step value ≤ bound := by
  obtain ⟨count, rfl⟩ := divides
  rw [multipleAbove_eq, Nat.mul_comm]
  exact Nat.mul_le_mul_left step ((ceilDiv_le_iff_le_smul positive).mpr below)

/-- With one step, rounding keeps the order. -/
theorem multipleAbove_mono {step left right : Nat} (positive : 0 < step) (ordered : left ≤ right) :
    multipleAbove step left ≤ multipleAbove step right :=
  multipleAbove_le positive (Nat.dvd_mul_left _ _)
    (ordered.trans (le_multipleAbove positive right))

section Leading

variable {base : Nat}

/-- The power of the base that leaves a value two digits, or one if it has no more. -/
def leadingStep (base value : Nat) : Nat := base ^ (Nat.log base value - 1)

/-- A value rounded up to its two leading digits. -/
def roundedUp (base value : Nat) : Nat := multipleAbove (leadingStep base value) value

/-- The step is a power of the base, so it is not zero. -/
theorem leadingStep_pos (several : 1 < base) (value : Nat) : 0 < leadingStep base value :=
  Nat.pow_pos (Nat.zero_lt_of_lt several)

/-- A rounded number is at least the number. -/
theorem le_roundedUp (several : 1 < base) (value : Nat) : value ≤ roundedUp base value :=
  le_multipleAbove (leadingStep_pos several value) value

/-- The next power of the base is a multiple of the step. -/
theorem roundedUp_le_pow (several : 1 < base) (value : Nat) :
    roundedUp base value ≤ base ^ (Nat.log base value + 1) :=
  multipleAbove_le (leadingStep_pos several value) (Nat.pow_dvd_pow base (by omega))
    (Nat.lt_pow_succ_log_self several value).le

/-- Rounding keeps the order.

Proof: with as many digits the step is the same. With fewer digits the smaller value
stays within the power of the base that the larger one has reached. -/
theorem roundedUp_mono (several : 1 < base) {left right : Nat} (ordered : left ≤ right) :
    roundedUp base left ≤ roundedUp base right := by
  rcases Nat.eq_or_lt_of_le (Nat.log_mono_right ordered) with same | fewer
  · rw [roundedUp, roundedUp, leadingStep, same]
    exact multipleAbove_mono (leadingStep_pos several right) ordered
  · have present : right ≠ 0 := by
      rintro rfl
      simp at fewer
    calc roundedUp base left ≤ base ^ (Nat.log base left + 1) := roundedUp_le_pow several left
      _ ≤ base ^ Nat.log base right := Nat.pow_le_pow_right (Nat.zero_lt_of_lt several) fewer
      _ ≤ right := Nat.pow_log_le_self base present
      _ ≤ roundedUp base right := le_roundedUp several right

end Leading

end Kit.Rounding
