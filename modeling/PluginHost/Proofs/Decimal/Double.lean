import PluginHost.Decimal.Double

/-!
# Doubles as numbers

A double has one form: two doubles that stand for the same number other than zero are the same.  A
double without a fraction stands for the whole number that is left when it is truncated.
-/

namespace PluginHost

theorem stepsPerUnit_pos : 0 < stepsPerUnit := by
  unfold stepsPerUnit
  generalize 1074 = exponent
  exact Nat.two_pow_pos exponent

theorem stepsPerUnit_ne_zero : (stepsPerUnit : Int) ≠ 0 :=
  Int.natCast_ne_zero.mpr (Nat.ne_of_gt stepsPerUnit_pos)

namespace Double

variable {number first second : Double} {value : Int}

/-! ### The canonical form -/

/-- The greater scale goes with the greater magnitude. -/
theorem scale_le_of_magnitude_eq (same : first.magnitude = second.magnitude) :
    second.scale ≤ first.scale := by
  obtain ⟨firstBound, -, -⟩ := first.canonical
  obtain ⟨-, -, secondFull⟩ := second.canonical
  rcases Nat.lt_or_ge first.scale second.scale with larger | notLarger
  case inr => exact notLarger
  have full : Nat.pow 2 52 ≤ second.significand := by
    rcases secondFull with full | zero
    · exact full
    · omega
  have less : first.magnitude < second.magnitude :=
    calc first.significand * Nat.pow 2 first.scale
        < Nat.pow 2 53 * Nat.pow 2 first.scale :=
          Nat.mul_lt_mul_of_pos_right firstBound (Nat.pow_pos (by decide))
      _ = Nat.pow 2 52 * Nat.pow 2 (first.scale + 1) := by
          simp only [Nat.pow_eq, ← Nat.pow_add]
          congr 1
          omega
      _ ≤ Nat.pow 2 52 * Nat.pow 2 second.scale :=
          Nat.mul_le_mul_left _ (Nat.pow_le_pow_right (by decide) larger)
      _ ≤ second.significand * Nat.pow 2 second.scale := Nat.mul_le_mul_right _ full
  exact absurd same (Nat.ne_of_lt less)

theorem natAbs_steps (number : Double) : number.steps.natAbs = number.magnitude := by
  rw [steps]
  split
  · rw [Int.natAbs_neg, Int.natAbs_natCast]
  · rw [Int.natAbs_natCast]

theorem eq_of_steps_eq (same : first.steps = second.steps) (notZero : first.steps ≠ 0) :
    first = second := by
  have magnitude : first.magnitude = second.magnitude := by
    rw [← natAbs_steps, ← natAbs_steps, same]
  have scale : first.scale = second.scale :=
    Nat.le_antisymm (scale_le_of_magnitude_eq magnitude.symm) (scale_le_of_magnitude_eq magnitude)
  have significand : first.significand = second.significand := by
    rw [Double.magnitude, Double.magnitude, scale] at magnitude
    exact Nat.eq_of_mul_eq_mul_right (Nat.pow_pos (by decide)) magnitude
  have negative : first.negative = second.negative := by
    rw [steps] at same notZero
    rw [steps, ← magnitude] at same
    cases firstSign : first.negative <;> cases secondSign : second.negative <;>
      simp only [firstSign, secondSign, Bool.false_eq_true, if_true, if_false] at same notZero ⊢ <;>
      omega
  obtain ⟨_, _, _, _⟩ := first
  obtain ⟨_, _, _, _⟩ := second
  cases scale
  cases significand
  cases negative
  rfl

/-! ### Whole numbers -/

theorem magnitude_of_whole (whole : number.steps = value * stepsPerUnit) :
    number.magnitude = value.natAbs * stepsPerUnit := by
  rw [← natAbs_steps, whole, Int.natAbs_mul, Int.natAbs_natCast]

theorem truncate_of_whole (whole : number.steps = value * stepsPerUnit) :
    number.truncate = value := by
  have magnitude := magnitude_of_whole whole
  have quotient : number.magnitude / stepsPerUnit = value.natAbs := by
    rw [magnitude, Nat.mul_div_cancel _ stepsPerUnit_pos]
  have signed : (if number.negative then -(value.natAbs : Int) else value.natAbs) *
      (stepsPerUnit : Int) = value * stepsPerUnit := by
    rw [← whole, steps, magnitude, Int.natCast_mul]
    split
    · rw [Int.neg_mul]
    · rfl
  rw [truncate, quotient]
  exact Int.eq_of_mul_eq_mul_right stepsPerUnit_ne_zero signed

/-- A double without a fraction stands for its whole part. -/
theorem steps_of_isIntegral (integral : number.isIntegral = true) :
    number.steps = number.truncate * stepsPerUnit := by
  have divides : number.magnitude / stepsPerUnit * stepsPerUnit = number.magnitude := by
    rw [isIntegral, beq_iff_eq] at integral
    exact Nat.div_mul_cancel (Nat.dvd_of_mod_eq_zero integral)
  rw [steps, truncate]
  split
  · rw [Int.neg_mul, ← Int.natCast_mul, divides]
  · rw [← Int.natCast_mul, divides]

theorem isIntegral_of_whole (whole : number.steps = value * stepsPerUnit) :
    number.isIntegral = true := by
  rw [isIntegral, magnitude_of_whole whole, Nat.mul_mod_left]
  rfl

end Double

end PluginHost
