import PluginHost.Decimal.Integer
import PluginHost.Settings.Tree
import PluginHost.Text.Blank
import PluginHost.Toml.Text

/-!
# Settings from environment variables

A variable whose name starts with the host's mark states the setting that the rest of its name
tells: a section, an underscore and a key, or keys with dots.  What its value is, is decided by
a small notation of its own: truth values, numbers, lists, tables and quoted texts, and a plain
text if it is nothing else.  The variables are merged one after the other.
-/

namespace PluginHost

open Text

/-- The variables of an environment, names and values in the order in which they are listed. -/
abbrev Environment := List (String × String)

namespace SettingNotation

/-- Whether a character is skipped around values. -/
def isSpace (c : Char) : Bool :=
  c == ' ' || c == '\t' || c == '\n'

/-- The text after its leading spaces. -/
def skipSpaces (text : List Char) : List Char :=
  text.dropWhile isSpace

/-- Whether a character belongs to a word. -/
def isWordChar (c : Char) : Bool :=
  !(c == ',' || c == '\x7b' || c == '\x7d' || c == '[' || c == ']')

/-- Whether a character belongs to a key without quotes. -/
def isKeyChar (c : Char) : Bool :=
  c.isAlphanum || c == '_' || c == '-'

/-- The setting that a word states: a float if it has a point, an integer, or a text. -/
def word (chars : List Char) : SettingScalar :=
  let chars := trimList chars
  if chars.contains '.' && ExtendedDouble.isDecimal chars then
    .float (ExtendedDouble.ofDecimal chars)
  else
    match IntegerRange.unsigned64.parse chars with
    | .ok value => .unsigned value.toNat
    | .error _ =>
      match IntegerRange.signed64.parse chars with
      | .ok value => .signed value
      | .error _ => .text (String.ofList chars)

/-- The text between double quotes, and what follows it. -/
def quotedText? (text : List Char) : Option (String × List Char) :=
  match text with
  | '"' :: rest => (TomlReader.scanBasic rest 0 []).toOption
  | _ => none

/-- A key, and what follows it. -/
def key? (text : List Char) : Option (String × List Char) :=
  match text with
  | '"' :: _ => quotedText? text
  | text =>
    match text.takeWhile isKeyChar with
    | [] => none
    | name => some (String.ofList name, text.dropWhile isKeyChar)

/-- A single setting. -/
def scalar? (text : List Char) : Option (SettingScalar × List Char) :=
  match text with
  | 't' :: 'r' :: 'u' :: 'e' :: rest => some (.boolean true, rest)
  | 'f' :: 'a' :: 'l' :: 's' :: 'e' :: rest => some (.boolean false, rest)
  | '"' :: _ => (quotedText? text).map fun (value, rest) => (.text value, rest)
  | '\'' :: c :: '\'' :: rest => some (.character c, rest)
  | '\'' :: _ => none
  | text => some (word (text.takeWhile isWordChar), text.dropWhile isWordChar)

mutual

/-- A value with the spaces around it. -/
def value? : Nat → List Char → Option (Setting × List Char)
  | 0, _ => none
  | fuel + 1, text =>
    match skipSpaces text with
    | '\x7b' :: rest =>
      (pairs? fuel rest).map fun (entries, rest) =>
        (.table .environment (KeyedList.ofList entries), skipSpaces rest)
    | '[' :: rest =>
      (items? fuel rest).map fun (items, rest) => (.list .environment items, skipSpaces rest)
    | text =>
      (scalar? text).map fun (value, rest) => (.scalar .environment value, skipSpaces rest)

/-- The items of a list up to its closing bracket. -/
def items? : Nat → List Char → Option (List Setting × List Char)
  | 0, _ => none
  | fuel + 1, text =>
    match text with
    | ']' :: rest => some ([], rest)
    | text =>
      match value? fuel text with
      | some (first, ',' :: rest) =>
        (items? fuel rest).map fun (items, rest) => (first :: items, rest)
      | some (first, ']' :: rest) => some ([first], rest)
      | _ => none

/-- The pairs of a table up to its closing brace. -/
def pairs? : Nat → List Char → Option (List (String × Setting) × List Char)
  | 0, _ => none
  | fuel + 1, text =>
    match text with
    | '\x7d' :: rest => some ([], rest)
    | text =>
      match pair? fuel text with
      | some (first, ',' :: rest) =>
        (pairs? fuel rest).map fun (pairs, rest) => (first :: pairs, rest)
      | some (first, '\x7d' :: rest) => some ([first], rest)
      | _ => none

/-- A key and its value. -/
def pair? : Nat → List Char → Option ((String × Setting) × List Char)
  | 0, _ => none
  | fuel + 1, text =>
    match key? (skipSpaces text) with
    | none => none
    | some (name, rest) =>
      match skipSpaces rest with
      | '=' :: rest =>
        (value? fuel rest).map fun (value, rest) => ((name, value), rest)
      | _ => none

end

/-- The setting that a text states; a text in no other notation states itself. -/
def read (text : String) : Setting :=
  match value? (3 * text.length + 3) text.toList with
  | some (value, []) => value
  | _ => .scalar .environment (.text text)

end SettingNotation

namespace Environment

/-- The value of a variable. -/
def get? (environment : Environment) (name : String) : Option String :=
  (environment.find? fun entry => entry.1 == name).map Prod.snd

/-- The mark that the names of the host's variables start with, in either case. -/
def mark : String :=
  "TOOLGATE_"

/-- The sections that a name may start with. -/
def sections : List String :=
  ["server", "plugins", "upstream", "logging"]

/-- The first of the sections that a name starts with, and the rest of the name. -/
def sectionOf? (name : List Char) : Option (String × List Char) :=
  sections.findSome? fun title =>
    (stripLeading? (title.toList ++ ['_']) name).map fun rest => (title, rest)

/-- The key, with dots, of the setting that a variable states, from its name without the
mark. -/
def settingKey (name : String) : String :=
  let lower := name.toList.map Char.toLower
  if lower == "debug".toList then "logging.debug"
  else
    match sectionOf? lower with
    | some (title, rest) => title ++ "." ++ String.ofList rest
    | none => String.ofList lower

/-- The path of the setting that a variable states, if its name starts with the mark and no
part of the path is empty. -/
def settingPath? (name : String) : Option (List String) :=
  let chars := trimList name.toList
  if (chars.take mark.length).map Char.toUpper == mark.toList then
    let path := split '.' (trim (settingKey (String.ofList (chars.drop mark.length))))
    if path.contains "" then none else some path
  else
    none

/-- The tree that states one setting at a path. -/
def nested : List String → Setting → Setting
  | [], setting => setting
  | key :: path, setting => .table .environment [(key, nested path setting)]

/-- The tree that the variables of the host state. -/
def tree (environment : Environment) : Setting :=
  environment.foldl
    (fun stated entry =>
      match settingPath? entry.1 with
      | some path => (nested path (SettingNotation.read entry.2)).laidOver stated
      | none => stated)
    (.table .environment [])

end Environment

end PluginHost
