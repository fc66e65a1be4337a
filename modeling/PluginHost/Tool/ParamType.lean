import PluginHost.Json.Fault

/-!
# Types of tool parameters

A parameter's type is what its arguments are coerced to.  Types are read by name, and from a
value that is the name or an object with the name as its only key and null under it.
-/

namespace PluginHost

/-- The type to which an argument is coerced. -/
inductive ParamType where
  | string
  | integer
  | number
  | boolean
  | object
  | array
  /-- Any value is passed on as it is. -/
  | any
deriving DecidableEq

namespace ParamType

/-- All types in the order in which they are listed. -/
def all : List ParamType :=
  [string, integer, number, boolean, object, array, any]

/-- The name of a type. -/
def name : ParamType → String
  | string => "string"
  | integer => "integer"
  | number => "number"
  | boolean => "boolean"
  | object => "object"
  | array => "array"
  | any => "any"

/-- The type of a name. -/
def ofName? (name : String) : Option ParamType :=
  all.find? fun type => type.name == name

/-- The wording for a text that names no type. -/
def unknownNameMessage : String :=
  "Matching variant not found"

/-- The type of a name, as part of a value. -/
def ofVariant (name : String) : Except ShapeProblem ParamType :=
  match ofName? name with
  | some type => .ok type
  | none => .error (.unknownVariant name (all.map ParamType.name))

/-- The type that a value holds. -/
def ofJson : Json → Except ShapeProblem ParamType
  | .string name => ofVariant name
  | .object [(name, value)] =>
    match ofVariant name, value with
    | .error problem, _ => .error problem
    | .ok type, .null => .ok type
    | .ok _, other => .error (.invalidType (.ofJson other) "unit")
  | .object _ => .error (.invalidValue .mapping "map with a single key")
  | other => .error (.invalidType (.ofJson other) "string or map")

end ParamType

end PluginHost
