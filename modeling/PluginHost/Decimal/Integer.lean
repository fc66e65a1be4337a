import PluginHost.Decimal.Reading

/-!
# Integers of a fixed range

Reading a decimal integer into a range: an optional sign, a minus sign only where the range
has negative numbers, and at least one digit.  The first character that is no digit is
reported before any overflow that it comes with.
-/

namespace PluginHost

/-- Why a text is no integer of a range. -/
inductive IntegerProblem where
  | empty
  | invalidDigit
  | tooLarge
  | tooSmall
deriving DecidableEq

/-- The wording of a problem. -/
def IntegerProblem.message : IntegerProblem → String
  | empty => "cannot parse integer from empty string"
  | invalidDigit => "invalid digit found in string"
  | tooLarge => "number too large to fit in target type"
  | tooSmall => "number too small to fit in target type"

/-- A range of integers, both ends included. -/
structure IntegerRange where
  least : Int
  greatest : Int

namespace IntegerRange

/-- Signed 64-bit integers. -/
def signed64 : IntegerRange :=
  ⟨-Int.pow 2 63, Int.pow 2 63 - 1⟩

/-- Unsigned 64-bit integers. -/
def unsigned64 : IntegerRange :=
  ⟨0, Int.pow 2 64 - 1⟩

/-- Unsigned 16-bit integers. -/
def unsigned16 : IntegerRange :=
  ⟨0, Int.pow 2 16 - 1⟩

/-- Unsigned 8-bit integers. -/
def unsigned8 : IntegerRange :=
  ⟨0, Int.pow 2 8 - 1⟩

/-- Whether an integer lies in the range. -/
def contains (range : IntegerRange) (value : Int) : Bool :=
  range.least ≤ value && value ≤ range.greatest

/-- Reads digits onto a value, going up or down. -/
def digitsOnto (range : IntegerRange) (negative : Bool) :
    Int → List Char → Except IntegerProblem Int
  | value, [] => .ok value
  | value, c :: rest =>
    if !c.isDigit then
      .error .invalidDigit
    else
      let step : Int := digitValue c
      let extended := if negative then value * 10 - step else value * 10 + step
      if range.greatest < extended then .error .tooLarge
      else if extended < range.least then .error .tooSmall
      else digitsOnto range negative extended rest

/-- The integer of the range that a text spells. -/
def parse (range : IntegerRange) (text : List Char) : Except IntegerProblem Int :=
  match text with
  | [] => .error .empty
  | ['+'] => .error .invalidDigit
  | ['-'] => .error .invalidDigit
  | '+' :: digits => range.digitsOnto false 0 digits
  | '-' :: digits =>
    if range.least < 0 then range.digitsOnto true 0 digits else .error .invalidDigit
  | digits => range.digitsOnto false 0 digits

end IntegerRange

end PluginHost
