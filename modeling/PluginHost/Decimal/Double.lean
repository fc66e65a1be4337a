/-!
# Finite binary64 numbers

A finite double is a sign and a whole number of smallest steps `2 ^ (-1074)`, held as a
significand of at most 53 bits and a power of two.  All arithmetic is exact arithmetic of
natural numbers followed by one rounding: to the nearest double, an exact tie to the even
significand.
-/

namespace PluginHost

/-- The number of steps `2 ^ (-1074)` that make up one. -/
def stepsPerUnit : Nat :=
  Nat.pow 2 1074

/-- A finite double, `(-1) ^ negative * significand * 2 ^ scale` steps, in its one canonical
form: the significand has its full 53 bits unless the scale is zero. -/
structure Double where
  /-- Whether the sign is minus; zero carries a sign too. -/
  negative : Bool
  /-- The significand, below `2 ^ 53`. -/
  significand : Nat
  /-- The power of two by which the significand is multiplied. -/
  scale : Nat
  canonical :
    significand < Nat.pow 2 53 ∧ scale ≤ 2045 ∧ (Nat.pow 2 52 ≤ significand ∨ scale = 0)
deriving DecidableEq

namespace Double

/-- The zero of a given sign. -/
def zero (negative : Bool) : Double :=
  ⟨negative, 0, 0, by decide⟩

instance : Inhabited Double := ⟨zero false⟩

/-- The magnitude as a number of steps. -/
def magnitude (number : Double) : Nat :=
  number.significand * Nat.pow 2 number.scale

/-- The signed number of steps. -/
def steps (number : Double) : Int :=
  if number.negative then -(number.magnitude : Int) else number.magnitude

/-- The same magnitude with the other sign. -/
def negate (number : Double) : Double :=
  { number with negative := !number.negative }

/-- The same magnitude with the given sign. -/
def withSign (negative : Bool) (number : Double) : Double :=
  { number with negative := negative }

/-- Whether the number is a zero of either sign. -/
def isZero (number : Double) : Bool :=
  number.significand == 0

/-- Whether the number has no fractional part. -/
def isIntegral (number : Double) : Bool :=
  number.magnitude % stepsPerUnit == 0

/-- The whole part, rounded toward zero. -/
def truncate (number : Double) : Int :=
  let whole : Int := (number.magnitude / stepsPerUnit : Nat)
  if number.negative then -whole else whole

/-- The double with a given significand and scale, or none if they are not canonical. -/
def ofParts? (negative : Bool) (significand scale : Nat) : Option Double :=
  if canonical :
      significand < Nat.pow 2 53 ∧ scale ≤ 2045 ∧ (Nat.pow 2 52 ≤ significand ∨ scale = 0) then
    some ⟨negative, significand, scale, canonical⟩
  else
    none

/-- The quotient rounded to the nearest whole number, an exact tie to the even one. -/
def roundedQuotient (numerator denominator : Nat) : Nat :=
  let quotient := numerator / denominator
  let remainder := numerator % denominator
  if denominator < 2 * remainder || (denominator == 2 * remainder && quotient % 2 == 1) then
    quotient + 1
  else
    quotient

/-- The power of two that leaves at most 53 bits of a number of steps. -/
def scaleFor (steps : Nat) : Nat :=
  if steps == 0 then 0 else Nat.log2 steps - 52

/-- The double nearest to `numerator / denominator` steps, or none above the largest one. -/
def ofStepQuotient? (negative : Bool) (numerator denominator : Nat) : Option Double :=
  let scale := scaleFor (numerator / denominator)
  let significand := roundedQuotient numerator (denominator * Nat.pow 2 scale)
  if significand == Nat.pow 2 53 then
    ofParts? negative (Nat.pow 2 52) (scale + 1)
  else
    ofParts? negative significand scale

/-- The double nearest to a fraction, or none above the largest one. -/
def ofFraction? (negative : Bool) (numerator denominator : Nat) : Option Double :=
  ofStepQuotient? negative (numerator * stepsPerUnit) denominator

/-- The double nearest to a whole number, or none above the largest one. -/
def ofInt? (number : Int) : Option Double :=
  ofFraction? (number < 0) number.natAbs 1

/-- The double nearest to a signed number of steps, or none above the largest one. -/
def ofSteps? (steps : Int) : Option Double :=
  ofStepQuotient? (steps < 0) steps.natAbs 1

/-- The rounded sum, or none above the largest double. -/
def add? (left right : Double) : Option Double :=
  ofSteps? (left.steps + right.steps)

/-- The rounded difference, or none above the largest double. -/
def sub? (left right : Double) : Option Double :=
  ofSteps? (left.steps - right.steps)

/-- The rounded product, or none above the largest double. -/
def mul? (left right : Double) : Option Double :=
  ofStepQuotient? (left.negative != right.negative)
    (left.magnitude * right.magnitude) stepsPerUnit

/-- The rounded quotient, or none above the largest double or for a zero divisor. -/
def div? (left right : Double) : Option Double :=
  if right.isZero then
    none
  else
    ofStepQuotient? (left.negative != right.negative)
      (left.magnitude * stepsPerUnit) right.magnitude

end Double

end PluginHost
