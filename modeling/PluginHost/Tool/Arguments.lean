import PluginHost.Decimal.Integer
import PluginHost.Error
import PluginHost.Json.Fault

/-!
# Bound arguments

A handler reads its arguments by name and shape.  An argument that was not bound reads as
null, so that optional shapes find it absent.
-/

namespace PluginHost

/-- The shape in which a handler reads an argument. -/
inductive ArgumentShape where
  | text
  | integer (range : IntegerRange) (title : String)
  | number
  | boolean
  | optional (inner : ArgumentShape)
  | list (inner : ArgumentShape)
  | mapping (inner : ArgumentShape)
  /-- A record of integers, which may also be written as an array. -/
  | integerRecord (title : String) (fields : List String)
  | any

namespace ArgumentShape

/-- Signed 64-bit integers. -/
def signed64 : ArgumentShape :=
  integer .signed64 "i64"

/-- Unsigned 64-bit integers. -/
def unsigned64 : ArgumentShape :=
  integer .unsigned64 "u64"

/-- Unsigned 8-bit integers. -/
def unsigned8 : ArgumentShape :=
  integer .unsigned8 "u8"

/-- A value as an integer of a range. -/
def readInteger (range : IntegerRange) (title : String) : Json → Except ShapeProblem Json
  | .number (.integer value inRange) =>
    if range.contains value then .ok (.number (.integer value inRange))
    else .error (.invalidValue (.integer value) title)
  | other => .error (.invalidType (.ofJson other) title)

/-- The integers of a record, from the fields of an object. -/
def readIntegerFields (fields : List String) :
    JsonFields → JsonFields → Except ShapeProblem (List Json)
  | found, [] =>
    fields.mapM fun name =>
      match KeyedList.get? name found with
      | some value => .ok value
      | none => .error (.missingField name)
  | found, (name, value) :: rest =>
    if fields.contains name then
      match readInteger .signed64 "i64" value with
      | .error problem => .error problem
      | .ok value => readIntegerFields fields (KeyedList.insert name value found) rest
    else
      readIntegerFields fields found rest

/-- The integers of a record, from the items of an array. -/
def readIntegerItems (title : String) (count : Nat) (items : List Json) :
    Except ShapeProblem (List Json) :=
  match (items.take count).mapM (readInteger .signed64 "i64") with
  | .error problem => .error problem
  | .ok read =>
    if items.length < count then
      .error (.invalidLength items.length s!"{title} with {count} elements")
    else if count < items.length then
      .error (.invalidLength items.length "fewer elements in array")
    else
      .ok read

/-- A value read in a shape.  Records give the list of their integers. -/
def read : ArgumentShape → Json → Except ShapeProblem Json
  | any, value => .ok value
  | text, .string value => .ok (.string value)
  | text, other => .error (.invalidType (.ofJson other) "a string")
  | integer range title, value => readInteger range title value
  | number, .number value => .ok (.number (.double value.toDouble))
  | number, other => .error (.invalidType (.ofJson other) "f64")
  | boolean, .bool value => .ok (.bool value)
  | boolean, other => .error (.invalidType (.ofJson other) "a boolean")
  | optional _, .null => .ok .null
  | optional inner, value => inner.read value
  | list inner, .array items => (items.mapM inner.read).map .array
  | list _, other => .error (.invalidType (.ofJson other) "a sequence")
  | mapping inner, .object fields =>
    (fields.mapM fun (field : String × Json) =>
      (inner.read field.2).map fun value => (field.1, value)).map .object
  | mapping _, other => .error (.invalidType (.ofJson other) "a map")
  | integerRecord _ fields, .object found =>
    (readIntegerFields fields [] found).map .array
  | integerRecord title fields, .array items =>
    (readIntegerItems title fields.length items).map .array
  | integerRecord title _, other => .error (.invalidType (.ofJson other) title)

end ArgumentShape

/-- The arguments bound to a tool's parameters. -/
structure ToolArgs where
  values : JsonFields

namespace ToolArgs

/-- The bound value, if the parameter was bound. -/
def raw? (name : String) (args : ToolArgs) : Option Json :=
  KeyedList.get? name args.values

/-- An argument read in a shape. -/
def get (shape : ArgumentShape) (name : String) (args : ToolArgs) : Except HostError Json :=
  (shape.read ((args.raw? name).getD .null)).mapError fun problem =>
    .invalidArgument s!"parameter `{name}`: {problem.message}"

/-- An argument read as a text. -/
def getText (name : String) (args : ToolArgs) : Except HostError String :=
  (args.get .text name).map fun value => value.asString?.getD ""

/-- An argument read as a count. -/
def getCount (name : String) (args : ToolArgs) : Except HostError Nat :=
  (args.get (.integer .unsigned64 "usize") name).map fun value =>
    match value with
    | .number (.integer count _) => count.toNat
    | _ => 0

/-- The arguments as an object. -/
def toJson (args : ToolArgs) : Json :=
  .object args.values

end ToolArgs

end PluginHost
