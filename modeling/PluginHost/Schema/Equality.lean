import PluginHost.Json.Basic

/-!
# Equality and size of values

Where a schema compares values, numbers are equal if they are the same double, so that `1` and
`1.0` are one value.
-/

namespace PluginHost.Json

/-- Whether two values are equal as far as schemas tell values apart. -/
def equivalent : Json → Json → Bool
  | null, null => true
  | bool left, bool right => left == right
  | number left, number right => left.toDouble.steps == right.toDouble.steps
  | string left, string right => left == right
  | array left, array right => equivalentItems left right
  | object left, object right => equivalentFields left right
  | _, _ => false
where
  equivalentItems : List Json → List Json → Bool
    | [], [] => true
    | left :: lefts, right :: rights => equivalent left right && equivalentItems lefts rights
    | _, _ => false
  equivalentFields : List (String × Json) → List (String × Json) → Bool
    | [], [] => true
    | (leftKey, left) :: lefts, (rightKey, right) :: rights =>
      leftKey == rightKey && equivalent left right && equivalentFields lefts rights
    | _, _ => false

/-- Whether no two values of a list are equal. -/
def allDistinct : List Json → Bool
  | [] => true
  | first :: rest => !rest.any first.equivalent && allDistinct rest

/-- The number of levels of arrays and objects. -/
def depth : Json → Nat
  | array items => itemsDepth items + 1
  | object fields => fieldsDepth fields + 1
  | _ => 0
where
  itemsDepth : List Json → Nat
    | [] => 0
    | first :: rest => max (depth first) (itemsDepth rest)
  fieldsDepth : List (String × Json) → Nat
    | [] => 0
    | (_, first) :: rest => max (depth first) (fieldsDepth rest)

/-- The number of values in a value, itself included. -/
def count : Json → Nat
  | array items => countItems items + 1
  | object fields => countFields fields + 1
  | _ => 1
where
  countItems : List Json → Nat
    | [] => 0
    | first :: rest => count first + countItems rest
  countFields : List (String × Json) → Nat
    | [] => 0
    | (_, first) :: rest => count first + countFields rest

end PluginHost.Json
