import PluginHost.Decimal.Double

/-!
# Shortest decimal digits

The digits of a positive double are the fewest that lie among the reals rounding to it; of
two candidates with that many digits the nearer one, of two equally near the even one.  The
ends of the interval belong to it exactly when the significand is even.
-/

namespace PluginHost

/-- A positive decimal `digits * 10 ^ exponent`. -/
structure Decimal where
  /-- The digits read as a whole number. -/
  digits : Nat
  /-- The power of ten of the last digit. -/
  exponent : Int
deriving DecidableEq, Repr

namespace Decimal

/-- The reals that round to a double, in quarter steps: the value and both ends. -/
structure Interval where
  low : Nat
  value : Nat
  high : Nat
  /-- Whether the ends themselves round to the value. -/
  closed : Bool

/-- The interval of a positive double.  Below a power of two the doubles lie twice as dense,
so that the lower end is nearer. -/
def Interval.ofDouble (number : Double) : Interval :=
  let quarter := Nat.pow 2 number.scale
  let value := 4 * number.magnitude
  let below :=
    if number.significand == Nat.pow 2 52 && number.scale != 0 then quarter else 2 * quarter
  { low := value - below
    value := value
    high := value + 2 * quarter
    closed := number.significand % 2 == 0 }

/-- Whether `candidate / grid` lies in the interval, where `grid` is the number of candidates
in a quarter step's unit and the interval is scaled by it. -/
def Interval.contains (interval : Interval) (scaleUp candidate : Nat) : Bool :=
  if interval.closed then
    interval.low * scaleUp ≤ candidate && candidate ≤ interval.high * scaleUp
  else
    interval.low * scaleUp < candidate && candidate < interval.high * scaleUp

/-- The decimal exponent of the leading digit of `numerator / denominator`, by counting up
for a number of at least one and down for a smaller one. -/
def leadingExponent (numerator denominator : Nat) : Int :=
  if denominator ≤ numerator then
    ((Nat.toDigits 10 (numerator / denominator)).length : Int) - 1
  else
    -((Nat.toDigits 10 ((denominator - 1) / numerator)).length : Int)

/-- The decimal of the double's interval on the grid `10 ^ exponent`, if the grid has one. -/
def onGrid? (interval : Interval) (exponent : Int) : Option Decimal :=
  let unit := 4 * stepsPerUnit
  let scaleUp := Nat.pow 10 (-exponent).toNat
  let pitch := unit * Nat.pow 10 exponent.toNat
  let scaled := interval.value * scaleUp
  let below := scaled / pitch
  let above := below + 1
  let lowHit := interval.contains scaleUp (below * pitch)
  let highHit := interval.contains scaleUp (above * pitch)
  let lowGap := scaled - below * pitch
  let highGap := above * pitch - scaled
  if lowHit && highHit then
    if lowGap < highGap || (lowGap == highGap && below % 2 == 0) then
      some ⟨below, exponent⟩
    else
      some ⟨above, exponent⟩
  else if lowHit then
    some ⟨below, exponent⟩
  else if highHit then
    some ⟨above, exponent⟩
  else
    none

/-- The first grid with a hit, trying one digit more each time. -/
def search (interval : Interval) (leading : Int) : List Nat → Decimal
  | [] => ⟨interval.value, 0⟩
  | count :: counts =>
    match onGrid? interval (leading - count) with
    | some found => found
    | none => search interval leading counts

/-- Moves trailing zeros of the digits into the exponent. -/
def stripZeros : Nat → Decimal → Decimal
  | 0, number => number
  | fuel + 1, number =>
    if number.digits != 0 && number.digits % 10 == 0 then
      stripZeros fuel ⟨number.digits / 10, number.exponent + 1⟩
    else
      number

/-- The shortest decimal that reads back as the given nonzero magnitude. -/
def shortest (number : Double) : Decimal :=
  let interval := Interval.ofDouble number
  let leading := leadingExponent interval.value (4 * stepsPerUnit)
  stripZeros 20 (search interval leading (List.range 18))

end Decimal

end PluginHost
