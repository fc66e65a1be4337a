import PluginHost.Decimal.Layout
import PluginHost.Json.Printer
import PluginHost.Text.Quoted
import PluginHost.Text.Utf8

/-!
# What can be wrong with a JSON text

A fault is a problem together with the place where reading stopped.  Places are told as a
line and a column that count bytes; a problem of shape, found in a value and not in a text,
has no place.
-/

namespace PluginHost

open Text

/-- What was found where a value of another shape was expected. -/
inductive JsonFound where
  | null
  | bool (value : Bool)
  | integer (value : Int)
  | double (value : Double)
  | text (value : String)
  | sequence
  | mapping
deriving DecidableEq

/-- A value that does not have the expected shape. -/
inductive ShapeProblem where
  /-- The value is of another type. -/
  | invalidType (found : JsonFound) (expected : String)
  /-- The value is of the right type but out of range. -/
  | invalidValue (found : JsonFound) (expected : String)
  /-- A sequence is too short or too long. -/
  | invalidLength (length : Nat) (expected : String)
  /-- A name is none of a list of alternatives. -/
  | unknownVariant (found : String) (alternatives : List String)
  | missingField (name : String)
  | duplicateField (name : String)
deriving DecidableEq

/-- What is wrong at one place of a JSON text. -/
inductive JsonProblem where
  | endInList
  | endInObject
  | endInString
  | endInValue
  | expectedColon
  | expectedListCommaOrEnd
  | expectedObjectCommaOrEnd
  | expectedIdent
  | expectedValue
  | invalidEscape
  | invalidNumber
  | numberOutOfRange
  | invalidCodePoint
  | controlCharacter
  | keyNotString
  | loneSurrogate
  | trailingComma
  | trailingCharacters
  | unfinishedSurrogate
  | tooDeep
  | shape (problem : ShapeProblem)
deriving DecidableEq

/-- How a found value is named. -/
def JsonFound.message : JsonFound → String
  | null => "null"
  | bool true => "boolean `true`"
  | bool false => "boolean `false`"
  | integer value => s!"integer `{value}`"
  | double value => s!"floating point `{DecimalLayout.json.write value}`"
  | text value => s!"string {quoted value}"
  | sequence => "sequence"
  | mapping => "map"

/-- How a value is named when it is not what was expected. -/
def JsonFound.ofJson : Json → JsonFound
  | .null => null
  | .bool value => bool value
  | .number (.integer value _) => integer value
  | .number (.double value) => double value
  | .string value => text value
  | .array _ => sequence
  | .object _ => mapping

/-- Alternatives as they are listed: two joined by `or`, more after `one of`. -/
def alternativesText : List String → String
  | [] => "there are no variants"
  | [only] => s!"expected `{only}`"
  | [first, second] => s!"expected `{first}` or `{second}`"
  | several => "expected one of " ++ ", ".intercalate (several.map fun name => s!"`{name}`")

/-- The wording of a problem of shape. -/
def ShapeProblem.message : ShapeProblem → String
  | invalidType found expected => s!"invalid type: {found.message}, expected {expected}"
  | invalidValue found expected => s!"invalid value: {found.message}, expected {expected}"
  | invalidLength length expected => s!"invalid length {length}, expected {expected}"
  | unknownVariant found alternatives =>
    s!"unknown variant `{found}`, {alternativesText alternatives}"
  | missingField name => s!"missing field `{name}`"
  | duplicateField name => s!"duplicate field `{name}`"

/-- The wording of a problem. -/
def JsonProblem.message : JsonProblem → String
  | endInList => "EOF while parsing a list"
  | endInObject => "EOF while parsing an object"
  | endInString => "EOF while parsing a string"
  | endInValue => "EOF while parsing a value"
  | expectedColon => "expected `:`"
  | expectedListCommaOrEnd => "expected `,` or `]`"
  | expectedObjectCommaOrEnd => "expected `,` or `\x7d`"
  | expectedIdent => "expected ident"
  | expectedValue => "expected value"
  | invalidEscape => "invalid escape"
  | invalidNumber => "invalid number"
  | numberOutOfRange => "number out of range"
  | invalidCodePoint => "invalid unicode code point"
  | controlCharacter =>
    "control character (\\u0000-\\u001F) found while parsing a string"
  | keyNotString => "key must be a string"
  | loneSurrogate => "lone leading surrogate in hex escape"
  | trailingComma => "trailing comma"
  | trailingCharacters => "trailing characters"
  | unfinishedSurrogate => "unexpected end of hex escape"
  | tooDeep => "recursion limit exceeded"
  | shape problem => problem.message

/-- A problem, the symbols left where it was met, and the bytes of them that were still
taken. -/
structure JsonFault where
  problem : JsonProblem
  rest : List Symbol
  taken : Nat

/-- The line and column reached after a number of bytes, counting on from a place.  A line
break moves to column zero of the next line. -/
def placeAfter : List Symbol → Nat → Nat × Nat → Nat × Nat
  | [], _, place => place
  | _, 0, place => place
  | symbol :: rest, bytes, (line, column) =>
    if symbol == some '\n' then
      placeAfter rest (bytes - 1) (line + 1, 0)
    else
      let size := Symbol.size symbol
      placeAfter rest (bytes - size) (line, column + min size bytes)

/-- The wording of a fault in a text, with its place. -/
def JsonFault.message (fault : JsonFault) (text : List Symbol) : String :=
  let read := symbolsSize text - symbolsSize fault.rest + fault.taken
  let (line, column) := placeAfter text read (1, 0)
  s!"{fault.problem.message} at line {line} column {column}"

end PluginHost
