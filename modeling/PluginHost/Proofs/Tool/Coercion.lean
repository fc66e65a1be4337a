import Mathlib.Order.Lattice
import PluginHost.Proofs.Decimal.Double
import PluginHost.Tool.Coercion

/-!
# Numbers as integers

A parameter of integers takes JSON integers as they are, and doubles without a fraction in the range
of signed integers as the integers that they stand for.  The range is closed by the double `2 ^ 63`,
which is taken too although there is no signed integer for it: the greatest one takes its place.
-/

namespace PluginHost

open Coercion

/-- Coercion to integers loses nothing of a number: JSON integers and the doubles that stand for a
whole number from `-2 ^ 63` to below `2 ^ 63` are accepted, nothing else is, and what comes out is a
JSON integer that is the same number. -/
structure LosslessAt (name : String) (number : JsonNumber) : Prop where
  accepted_iff : (∃ coerced, coerce name .integer (.number number) = .ok coerced) ↔
    (∃ value inRange, number = .integer value inRange) ∨
      ∃ (double : Double) (value : Int), number = .double double ∧
        double.steps = value * stepsPerUnit ∧ -Int.pow 2 63 ≤ value ∧ value < Int.pow 2 63
  kept : ∀ coerced, coerce name .integer (.number number) = .ok coerced →
    ∃ value inRange, coerced = .number (.integer value inRange) ∧
      value * stepsPerUnit = number.steps

/-- The double `2 ^ 63`. -/
def signedBound : Double :=
  ⟨false, Nat.pow 2 52, 1085, by decide⟩

theorem steps_signedBound : signedBound.steps = Int.pow 2 63 * stepsPerUnit := by
  decide +kernel

variable {name : String} {number : JsonNumber} {double : Double} {value : Int}

theorem coerce_integer_eq_ok_iff {coerced : Json} :
    coerce name .integer (.number number) = .ok coerced ↔
      ∃ taken, integral? number = some taken ∧ coerced = .number taken := by
  rw [coerce, convert?]
  cases integral? number with
  | none => simp
  | some taken => simpa using eq_comm

/-- The integer that takes the place of a whole number up to `2 ^ 63`. -/
theorem ofInt?_min_greatest (low : -Int.pow 2 63 ≤ value) :
    ∃ inRange, JsonNumber.ofInt? (min value IntegerRange.signed64.greatest) =
      some (.integer (min value (Int.pow 2 63 - 1)) inRange) := by
  have inRange : IsJsonInteger (min value (Int.pow 2 63 - 1)) := by
    have positive : (0 : Int) < Int.pow 2 63 := by decide
    have larger : Int.pow 2 63 < Int.pow 2 64 := by decide
    constructor <;> omega
  exact ⟨inRange, dif_pos inRange⟩

/-- What becomes of a double. -/
theorem integral?_double_eq_some_iff {taken : JsonNumber} :
    integral? (.double double) = some taken ↔
      ∃ value : Int, double.steps = value * stepsPerUnit ∧ -Int.pow 2 63 ≤ value ∧
        value ≤ Int.pow 2 63 ∧
          ∃ inRange, taken = .integer (min value (Int.pow 2 63 - 1)) inRange := by
  simp only [integral?]
  constructor
  · intro found
    split at found
    · next conditions =>
        obtain ⟨⟨integral, low⟩, high⟩ := by
          simpa only [Bool.and_eq_true, decide_eq_true_eq] using conditions
        obtain ⟨inRange, fits⟩ := ofInt?_min_greatest low
        rw [fits] at found
        exact ⟨double.truncate, Double.steps_of_isIntegral integral, low, high, inRange,
          (Option.some.inj found).symm⟩
    · cases found
  · rintro ⟨value, whole, low, high, inRange, rfl⟩
    have integral := Double.isIntegral_of_whole whole
    obtain ⟨_, fits⟩ := ofInt?_min_greatest low
    rw [Double.truncate_of_whole whole, if_pos, fits]
    simpa only [Bool.and_eq_true, decide_eq_true_eq] using ⟨⟨integral, low⟩, high⟩

/-- JSON integers are taken as they are. -/
theorem losslessAt_integer (name : String) (value : Int) (inRange : IsJsonInteger value) :
    LosslessAt name (.integer value inRange) where
  accepted_iff := iff_of_true ⟨_, coerce_integer_eq_ok_iff.mpr ⟨_, rfl, rfl⟩⟩ (.inl ⟨_, _, rfl⟩)
  kept coerced coerces := by
    obtain ⟨taken, found, rfl⟩ := coerce_integer_eq_ok_iff.mp coerces
    obtain rfl := Option.some.inj found
    exact ⟨value, inRange, rfl, rfl⟩

/-- Every other double than `2 ^ 63` that is taken stands for an integer below it. -/
theorem value_lt_of_ne_signedBound (apart : double ≠ signedBound)
    (whole : double.steps = value * stepsPerUnit) (high : value ≤ Int.pow 2 63) :
    value < Int.pow 2 63 := by
  refine lt_of_le_of_ne high ?_
  rintro rfl
  have notZero : double.steps ≠ 0 := by
    rw [whole]
    exact Int.mul_ne_zero (by decide) stepsPerUnit_ne_zero
  exact apart (Double.eq_of_steps_eq (whole.trans steps_signedBound.symm) notZero)

theorem losslessAt_double (name : String) (apart : double ≠ signedBound) :
    LosslessAt name (.double double) where
  accepted_iff := by
    simp only [coerce_integer_eq_ok_iff, integral?_double_eq_some_iff]
    constructor
    · rintro ⟨_, _, ⟨value, whole, low, high, -⟩, -⟩
      exact .inr ⟨double, value, rfl, whole, low, value_lt_of_ne_signedBound apart whole high⟩
    · rintro (⟨_, _, other⟩ | ⟨_, value, same, whole, low, high⟩)
      · cases other
      · cases same
        obtain ⟨inRange, -⟩ := ofInt?_min_greatest low
        exact ⟨_, _, ⟨value, whole, low, le_of_lt high, inRange, rfl⟩, rfl⟩
  kept coerced coerces := by
    obtain ⟨taken, found, rfl⟩ := coerce_integer_eq_ok_iff.mp coerces
    obtain ⟨value, whole, low, high, inRange, rfl⟩ := integral?_double_eq_some_iff.mp found
    have below := value_lt_of_ne_signedBound apart whole high
    have same : min value (Int.pow 2 63 - 1) = value := by omega
    refine ⟨_, inRange, rfl, ?_⟩
    rw [same]
    exact whole.symm

/-- The greatest signed integer takes the place of the double `2 ^ 63`. -/
theorem coerce_signedBound (name : String) :
    coerce name .integer (.number (.double signedBound)) =
      .ok (.number (.integer 9223372036854775807 (by decide))) := by
  refine coerce_integer_eq_ok_iff.mpr ⟨_, integral?_double_eq_some_iff.mpr ?_, rfl⟩
  exact ⟨Int.pow 2 63, steps_signedBound, by decide, le_refl _, by decide, rfl⟩

/-- Coercion to integers loses something of one number only, the double `2 ^ 63`. -/
theorem coerce_losslessAt_iff (name : String) (number : JsonNumber) :
    LosslessAt name number ↔ number ≠ .double signedBound := by
  constructor
  · rintro lossless rfl
    obtain ⟨value, inRange, same, kept⟩ := lossless.kept _ (coerce_signedBound name)
    cases same
    have bound : (9223372036854775807 : Int) = Int.pow 2 63 :=
      Int.eq_of_mul_eq_mul_right stepsPerUnit_ne_zero (kept.trans steps_signedBound)
    exact absurd bound (by decide)
  · intro apart
    cases number with
    | integer value inRange => exact losslessAt_integer name value inRange
    | double double => exact losslessAt_double name fun same => apart (congrArg _ same)

/-- The double `2 ^ 63` is accepted and comes out one less. -/
theorem not_losslessAt_signedBound :
    signedBound.steps = 9223372036854775808 * stepsPerUnit ∧
      coerce "p" .integer (.number (.double signedBound)) =
        .ok (.number (.integer 9223372036854775807 (by decide))) ∧
      ¬ LosslessAt "p" (.double signedBound) := by
  have bound : (9223372036854775808 : Int) = Int.pow 2 63 := by decide
  refine ⟨bound ▸ steps_signedBound, coerce_signedBound "p", fun lossless => ?_⟩
  rcases lossless.accepted_iff.mp ⟨_, coerce_signedBound "p"⟩ with
    ⟨value, inRange, same⟩ | ⟨double, value, same, whole, -, high⟩
  · exact JsonNumber.noConfusion same
  · obtain rfl := JsonNumber.double.inj same
    have least : value = Int.pow 2 63 :=
      Int.eq_of_mul_eq_mul_right stepsPerUnit_ne_zero (whole.symm.trans steps_signedBound)
    exact absurd least (ne_of_lt high)

end PluginHost
