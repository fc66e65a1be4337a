import PluginHost.Decimal.Integer
import PluginHost.Error
import PluginHost.Json.Printer
import PluginHost.Text.Blank
import PluginHost.Tool.ParamType

/-!
# Coercion of arguments

Callers send `"5"` for a number or `5` for a text.  An argument is converted where its meaning
is clear and rejected otherwise; objects, arrays and null are never produced.
-/

namespace PluginHost

open Text

namespace Coercion

/-- The greatest double that is taken for an integer, `2 ^ 63`. -/
def greatestIntegral : Int :=
  Int.pow 2 63

/-- A number as an integer: whole numbers as they are, doubles without a fraction from
`-2 ^ 63` to `2 ^ 63`, of which the last one gives the greatest signed integer. -/
def integral? : JsonNumber → Option JsonNumber
  | .integer value inRange => some (.integer value inRange)
  | .double value =>
    let whole := value.truncate
    if value.isIntegral && -greatestIntegral ≤ whole && whole ≤ greatestIntegral then
      JsonNumber.ofInt? (min whole IntegerRange.signed64.greatest)
    else
      none

/-- A text as an integer, signed or unsigned. -/
def parseInteger? (text : List Char) : Option JsonNumber :=
  match IntegerRange.signed64.parse text with
  | .ok value => JsonNumber.ofInt? value
  | .error _ =>
    match IntegerRange.unsigned64.parse text with
    | .ok value => JsonNumber.ofInt? value
    | .error _ => none

/-- The truth value of a text. -/
def parseBoolean? (text : List Char) : Option Bool :=
  if text == ['t', 'r', 'u', 'e'] then some true
  else if text == ['f', 'a', 'l', 's', 'e'] then some false
  else none

/-- A value converted to a type, if it can be. -/
def convert? (type : ParamType) (value : Json) : Option Json :=
  match type, value with
  | .any, value => some value
  | .string, .string text => some (.string text)
  | .string, .number number => some (.string (String.ofList number.write))
  | .string, .bool true => some (.string "true")
  | .string, .bool false => some (.string "false")
  | .integer, .number number => (integral? number).map .number
  | .integer, .string text => (parseInteger? (trimList text.toList)).map .number
  | .number, .number number => some (.number number)
  | .number, .string text =>
    (Double.parse? (trimList text.toList)).map fun value => .number (.double value)
  | .boolean, .bool value => some (.bool value)
  | .boolean, .string text => (parseBoolean? (trimList text.toList)).map .bool
  | .object, .object fields => some (.object fields)
  | .array, .array items => some (.array items)
  | _, _ => none

end Coercion

/-- An argument converted to its parameter's type. -/
def coerce (name : String) (type : ParamType) (value : Json) : Except HostError Json :=
  match Coercion.convert? type value with
  | some converted => .ok converted
  | none => .error (.invalidArgument s!"parameter `{name}` must be of type {type.name}")

end PluginHost
