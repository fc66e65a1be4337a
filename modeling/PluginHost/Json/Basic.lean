import PluginHost.Decimal.Double
import PluginHost.KeyedList

/-!
# JSON values

Numbers are of two kinds that stay apart: whole numbers from `-2 ^ 63` to `2 ^ 64 - 1`, kept
exactly, and finite doubles.  The fields of an object are listed by key, in the order of code
points, and each key occurs once; every operation that builds an object keeps it so.
-/

namespace PluginHost

/-- The whole numbers that are kept exactly. -/
def IsJsonInteger (value : Int) : Prop :=
  -Int.pow 2 63 ≤ value ∧ value < Int.pow 2 64

instance (value : Int) : Decidable (IsJsonInteger value) :=
  inferInstanceAs (Decidable (_ ∧ _))

/-- A JSON number. -/
inductive JsonNumber where
  /-- A whole number, written without a point or an exponent. -/
  | integer (value : Int) (inRange : IsJsonInteger value)
  /-- A finite double. -/
  | double (value : Double)
deriving DecidableEq

namespace JsonNumber

/-- The whole number, if it is in the range of those kept exactly. -/
def ofInt? (value : Int) : Option JsonNumber :=
  if inRange : IsJsonInteger value then some (integer value inRange) else none

/-- The nearest JSON number to a whole number: itself, or else a double. -/
def ofInt (value : Int) : JsonNumber :=
  if inRange : IsJsonInteger value then integer value inRange
  else double ((Double.ofInt? value).getD (Double.zero false))

/-- The exact value as a number of steps `2 ^ (-1074)`. -/
def steps : JsonNumber → Int
  | integer value _ => value * stepsPerUnit
  | double value => value.steps

/-- The number as a double, a whole number rounded to the nearest one. -/
def toDouble : JsonNumber → Double
  | integer value _ => (Double.ofInt? value).getD (Double.zero false)
  | double value => value

end JsonNumber

/-- A JSON value. -/
inductive Json where
  | null
  | bool (value : Bool)
  | number (value : JsonNumber)
  | string (value : String)
  | array (items : List Json)
  | object (fields : List (String × Json))

/-- The fields of an object, listed by key. -/
abbrev JsonFields := KeyedList Json

instance : Inhabited Json := ⟨.null⟩

namespace Json

/-- An object with the given fields. -/
def ofFields (fields : List (String × Json)) : Json :=
  object (KeyedList.ofList fields)

/-- The integer of a natural number, or the nearest double beyond `2 ^ 64`. -/
def ofNat (value : Nat) : Json :=
  number (JsonNumber.ofInt value)

/-- The integer of a whole number, or the nearest double beyond the exact range. -/
def ofInt (value : Int) : Json :=
  number (JsonNumber.ofInt value)

/-- The text of a string value. -/
def asString? : Json → Option String
  | string value => some value
  | _ => none

/-- The truth value of a boolean. -/
def asBool? : Json → Option Bool
  | bool value => some value
  | _ => none

/-- The items of an array. -/
def asArray? : Json → Option (List Json)
  | array items => some items
  | _ => none

/-- The fields of an object. -/
def asObject? : Json → Option JsonFields
  | object fields => some fields
  | _ => none

/-- The value under a key of an object. -/
def get? (key : String) : Json → Option Json
  | object fields => KeyedList.get? key fields
  | _ => none

/-- The value under a key of an object, null if there is none. -/
def field (key : String) (value : Json) : Json :=
  (value.get? key).getD null

/-- The item of an array at a position, null if there is none. -/
def item (index : Nat) : Json → Json
  | array items => (items[index]?).getD null
  | _ => null

/-- Whether two values are the same, numbers of different kinds being different. -/
def same : Json → Json → Bool
  | null, null => true
  | bool left, bool right => left == right
  | number left, number right => decide (left = right)
  | string left, string right => left == right
  | array left, array right => sameItems left right
  | object left, object right => sameFields left right
  | _, _ => false
where
  sameItems : List Json → List Json → Bool
    | [], [] => true
    | left :: lefts, right :: rights => same left right && sameItems lefts rights
    | _, _ => false
  sameFields : List (String × Json) → List (String × Json) → Bool
    | [], [] => true
    | (leftKey, left) :: lefts, (rightKey, right) :: rights =>
      leftKey == rightKey && same left right && sameFields lefts rights
    | _, _ => false

end Json

end PluginHost
