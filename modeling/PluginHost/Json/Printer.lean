import PluginHost.Decimal.Layout
import PluginHost.Json.Basic

/-!
# Printing JSON

The compact form has no blanks at all; the indented form puts each item and field on a line
of its own, two blanks deeper per level, and closes empty arrays and objects at once.
-/

namespace PluginHost

/-- The written form of a whole number. -/
def intDigits (value : Int) : List Char :=
  if value < 0 then '-' :: Nat.toDigits 10 value.natAbs else Nat.toDigits 10 value.natAbs

/-- The written form of a number. -/
def JsonNumber.write : JsonNumber → List Char
  | integer value _ => intDigits value
  | double value => (DecimalLayout.json.write value).toList

namespace Json

/-- The spelling of one character inside a string: quotes, backslashes and control
characters are escaped, all else stands for itself. -/
def escapedChar (c : Char) : List Char :=
  if c == '"' then ['\\', '"']
  else if c == '\\' then ['\\', '\\']
  else if c == '\n' then ['\\', 'n']
  else if c == '\r' then ['\\', 'r']
  else if c == '\t' then ['\\', 't']
  else if c == '\x08' then ['\\', 'b']
  else if c == '\x0c' then ['\\', 'f']
  else if c.toNat < 0x20 then
    ['\\', 'u', '0', '0', Nat.digitChar (c.toNat / 16), Nat.digitChar (c.toNat % 16)]
  else [c]

/-- A string in double quotes. -/
def writeString (text : String) : List Char :=
  '"' :: (text.toList.flatMap escapedChar ++ ['"'])

/-- The compact form of a value. -/
def write : Json → List Char
  | null => ['n', 'u', 'l', 'l']
  | bool true => ['t', 'r', 'u', 'e']
  | bool false => ['f', 'a', 'l', 's', 'e']
  | number value => value.write
  | string text => writeString text
  | array [] => ['[', ']']
  | array (first :: rest) => '[' :: (write first ++ writeItems rest)
  | object [] => ['\x7b', '\x7d']
  | object ((key, value) :: rest) =>
    '\x7b' :: (writeString key ++ ':' :: (write value ++ writeFields rest))
where
  /-- The items after the first one, and the closing bracket. -/
  writeItems : List Json → List Char
    | [] => [']']
    | next :: rest => ',' :: (write next ++ writeItems rest)
  /-- The fields after the first one, and the closing brace. -/
  writeFields : List (String × Json) → List Char
    | [] => ['\x7d']
    | (key, value) :: rest =>
      ',' :: (writeString key ++ ':' :: (write value ++ writeFields rest))

/-- The compact form of a value as a text. -/
def compact (value : Json) : String :=
  String.ofList value.write

/-- A line break and the indentation of a level. -/
def newline (level : Nat) : List Char :=
  '\n' :: List.replicate (2 * level) ' '

/-- The indented form of a value at a level. -/
def writeIndented (level : Nat) : Json → List Char
  | array [] => ['[', ']']
  | array (first :: rest) =>
    '[' :: (newline (level + 1) ++ writeIndented (level + 1) first ++ indentedItems level rest)
  | object [] => ['\x7b', '\x7d']
  | object ((key, value) :: rest) =>
    '\x7b' :: (newline (level + 1) ++ writeString key ++ ':' :: ' ' ::
      (writeIndented (level + 1) value ++ indentedFields level rest))
  | null => write null
  | bool value => write (bool value)
  | number value => value.write
  | string text => writeString text
where
  /-- The items after the first one of an array that stands at a level. -/
  indentedItems (level : Nat) : List Json → List Char
    | [] => newline level ++ [']']
    | next :: rest =>
      ',' :: (newline (level + 1) ++ writeIndented (level + 1) next ++ indentedItems level rest)
  /-- The fields after the first one of an object that stands at a level. -/
  indentedFields (level : Nat) : List (String × Json) → List Char
    | [] => newline level ++ ['\x7d']
    | (key, value) :: rest =>
      ',' :: (newline (level + 1) ++ writeString key ++ ':' :: ' ' ::
        (writeIndented (level + 1) value ++ indentedFields level rest))

/-- The indented form of a value as a text. -/
def indented (value : Json) : String :=
  String.ofList (value.writeIndented 0)

end Json

end PluginHost
