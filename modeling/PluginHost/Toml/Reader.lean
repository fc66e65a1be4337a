import PluginHost.Toml.Number
import PluginHost.Toml.Table
import PluginHost.Toml.Text

/-!
# Reading TOML keys and values

Arrays and tables in braces contain values, so their readers call one another; the number of
steps that they may still take bounds them, and a text has fewer steps than it has characters.
-/

namespace PluginHost

namespace TomlReader

/-- The depth of nesting, and the number of parts of a dotted key, that are refused. -/
def depthLimit : Nat := 80

/-! ### Keys -/

/-- Whether a character may stand in a key without quotes. -/
def isBareKeyChar (c : Char) : Bool :=
  c.isAlphanum || c == '_' || c == '-'

/-- One part of a key. -/
def simpleKey (text : List Char) : Step String :=
  match text with
  | '"' :: _ => shortString text
  | '\'' :: _ => shortString text
  | text =>
    match text.takeWhile isBareKeyChar with
    | [] => soft text
    | name => .ok (String.ofList name, text.dropWhile isBareKeyChar)

/-- One part of a key with the blanks around it. -/
def spacedKey (text : List Char) : Step String :=
  (simpleKey (skipBlanks text)).map fun (name, rest) => (name, skipBlanks rest)

/-- The further parts of a key, each after a dot.  A dot without a part is left. -/
def keyTail : Nat → List Char → Step (List String)
  | 0, text => .ok ([], text)
  | fuel + 1, text =>
    match text with
    | '.' :: rest =>
      match optionally text (spacedKey rest) with
      | .error fault => .error fault
      | .ok (none, rest) => .ok ([], rest)
      | .ok (some name, rest) =>
        (keyTail fuel rest).map fun (names, rest) => (name :: names, rest)
    | text => .ok ([], text)

/-- A dotted key: the parts before the last one, and the last one. -/
def dottedKey (text : List Char) : Step (List String × String) :=
  match spacedKey text with
  | .error fault => .error fault
  | .ok (first, rest) =>
    match keyTail text.length rest with
    | .error fault => .error fault
    | .ok (names, rest) =>
      let parts := first :: names
      if depthLimit ≤ parts.length then soft text
      else .ok ((parts.dropLast, parts.getLast?.getD first), rest)

/-! ### Values -/

/-- A word in place of a value; anything else that begins like it is refused. -/
def wordValue (word : List Char) (value : TomlValue) (text : List Char) : Step TomlValue :=
  (committed (expectWord word text)).map fun rest => (value, rest)

/-- A number, a word for one, a truth value or a string. -/
def scalar (text : List Char) : Step TomlValue :=
  match text with
  | [] => soft []
  | c :: _ =>
    if c == '"' || c == '\'' then (string text).map fun (value, rest) => (.text value, rest)
    else if c == '+' || c == '-' || c.isDigit then numberOrDate text
    else if c == '_' then (integer text).map fun (value, rest) => (.integer value, rest)
    else if c == '.' then (float text).map fun (value, rest) => (.float value, rest)
    else if c == 't' then wordValue ['t', 'r', 'u', 'e'] (.boolean true) text
    else if c == 'f' then wordValue ['f', 'a', 'l', 's', 'e'] (.boolean false) text
    else if c == 'i' || c == 'n' then
      (wordFloat text).map fun (value, rest) => (.float value, rest)
    else soft text

/-- The text after blanks, line breaks and comments. -/
def filler (text : List Char) : List Char :=
  skipFiller text.length text

mutual

/-- A value at a depth of nesting. -/
def value : Nat → Nat → List Char → Step TomlValue
  | 0, _, text => soft text
  | fuel + 1, depth, text =>
    match text with
    | '[' :: rest =>
      if depthLimit ≤ depth + 1 then final text
      else
        match items fuel (depth + 1) rest with
        | .error fault => .error fault
        | .ok (read, rest) =>
          (committed (expect ']' rest)).map fun rest => (.array read, rest)
    | '\x7b' :: rest =>
      if depthLimit ≤ depth + 1 then final text
      else
        match pairs fuel (depth + 1) rest with
        | .error fault => .error fault
        | .ok (read, after) =>
          match read.foldlM (fun entries ((path, key), value) =>
              TomlEntries.insertDotted path key value .stated entries) [] with
          | none => final rest
          | some entries =>
            (committed (expect '\x7d' (skipBlanks after))).map fun rest =>
              (.table (TomlNode.entryValues entries), rest)
    | text => scalar text

/-- The items of an array with the fillers around them, up to what is no item. -/
def items : Nat → Nat → List Char → Step (List TomlValue)
  | 0, _, text => .ok ([], text)
  | fuel + 1, depth, text =>
    match optionally text (spacedItem fuel depth text) with
    | .error fault => .error fault
    | .ok (none, rest) => .ok ([], filler rest)
    | .ok (some first, rest) =>
      match rest with
      | ',' :: after =>
        (items fuel depth after).map fun (more, rest) => (first :: more, rest)
      | rest => .ok ([first], rest)

/-- One item with the fillers around it. -/
def spacedItem : Nat → Nat → List Char → Step TomlValue
  | 0, _, text => soft text
  | fuel + 1, depth, text =>
    (value fuel depth (filler text)).map fun (read, rest) => (read, filler rest)

/-- The pairs of a table in braces, up to what is no pair. -/
def pairs : Nat → Nat → List Char → Step (List ((List String × String) × TomlNode))
  | 0, _, text => .ok ([], text)
  | fuel + 1, depth, text =>
    match optionally text (pair fuel depth text) with
    | .error fault => .error fault
    | .ok (none, rest) => .ok ([], rest)
    | .ok (some first, rest) => morePairs fuel depth first rest

/-- The pairs after a first one, each after a comma.  A comma without a pair is left. -/
def morePairs : Nat → Nat → (List String × String) × TomlNode → List Char →
    Step (List ((List String × String) × TomlNode))
  | 0, _, first, text => .ok ([first], text)
  | fuel + 1, depth, first, text =>
    match text with
    | ',' :: rest =>
      match optionally text (pair fuel depth rest) with
      | .error fault => .error fault
      | .ok (none, rest) => .ok ([first], rest)
      | .ok (some next, rest) =>
        (morePairs fuel depth next rest).map fun (more, rest) => (first :: more, rest)
    | text => .ok ([first], text)

/-- A key, its value and the blanks around it. -/
def pair : Nat → Nat → List Char → Step ((List String × String) × TomlNode)
  | 0, _, text => soft text
  | fuel + 1, depth, text =>
    match dottedKey text with
    | .error fault => .error fault
    | .ok (key, rest) =>
      match committed (expect '=' rest) with
      | .error fault => .error fault
      | .ok rest =>
        match committed (value fuel depth (skipBlanks rest)) with
        | .error fault => .error fault
        | .ok (read, rest) => .ok ((key, .value read), skipBlanks rest)

end

/-- A value outside any other. -/
def topValue (text : List Char) : Step TomlValue :=
  value (4 * text.length + 4) 0 text

end TomlReader

end PluginHost
