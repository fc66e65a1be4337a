import PluginHost.Decimal.Extended

/-!
# TOML values

What a settings file holds, and how its reader stops: a fault is the place at which reading
could not go on.  A soft fault lets the reader try something else there, a final one does not.
-/

namespace PluginHost

/-- A TOML value. -/
inductive TomlValue where
  | text (value : String)
  | integer (value : Int)
  | float (value : ExtendedDouble)
  | boolean (value : Bool)
  /-- A date, a time or both, in their written form. -/
  | datetime (written : String)
  | array (items : List TomlValue)
  | table (entries : List (String × TomlValue))

/-- Where reading stopped. -/
structure TomlFault where
  /-- The text that was not read. -/
  rest : List Char
  /-- Whether nothing else may be tried. -/
  isFinal : Bool

namespace TomlReader

/-- What a reading step gives: a value and the text after it, or a fault. -/
abbrev Step (α : Type) := Except TomlFault (α × List Char)

/-- A fault after which something else may be tried. -/
def soft {α : Type} (rest : List Char) : Except TomlFault α :=
  .error ⟨rest, false⟩

/-- A fault after which nothing else is tried. -/
def final {α : Type} (rest : List Char) : Except TomlFault α :=
  .error ⟨rest, true⟩

/-- A step whose faults are final. -/
def committed {α : Type} : Except TomlFault α → Except TomlFault α
  | .ok read => .ok read
  | .error fault => final fault.rest

/-- A step that may be left out: a soft fault leaves the text as it was. -/
def optionally {α : Type} (text : List Char) (step : Step α) : Step (Option α) :=
  match step with
  | .ok (value, rest) => .ok (some value, rest)
  | .error fault => if fault.isFinal then .error fault else .ok (none, text)

/-- The first of two steps, or the second one if the first meets a soft fault. -/
def orElse {α : Type} (first : Step α) (second : Unit → Step α) : Step α :=
  match first with
  | .ok read => .ok read
  | .error fault => if fault.isFinal then .error fault else second ()

/-- The text after a character, which must come next. -/
def expect (c : Char) (text : List Char) : Except TomlFault (List Char) :=
  match text with
  | d :: rest => if c == d then .ok rest else soft text
  | [] => soft []

/-- The text after a word, which must come next. -/
def expectWord (word : List Char) (text : List Char) : Except TomlFault (List Char) :=
  if text.take word.length == word then .ok (text.drop word.length) else soft text

/-- Whether a character is a blank inside a line. -/
def isBlankInLine (c : Char) : Bool :=
  c == ' ' || c == '\t'

/-- The text after its leading blanks. -/
def skipBlanks (text : List Char) : List Char :=
  text.dropWhile isBlankInLine

/-- The text after a line break, if one comes next. -/
def lineBreak? : List Char → Option (List Char)
  | '\n' :: rest => some rest
  | '\r' :: '\n' :: rest => some rest
  | _ => none

/-- Whether a character may stand in a comment. -/
def isCommentChar (c : Char) : Bool :=
  c == '\t' || (0x20 ≤ c.toNat && c != '\x7f')

/-- The text after a comment, if one comes next. -/
def skipComment : List Char → List Char
  | '#' :: rest => rest.dropWhile isCommentChar
  | text => text

/-- The text after the end of a line, which may be the end of the text. -/
def lineEnd (text : List Char) : Except TomlFault (List Char) :=
  match text, lineBreak? text with
  | [], _ => .ok []
  | _, some rest => .ok rest
  | text, none => soft text

/-- The text after blanks, a comment and the end of the line. -/
def lineTrailing (text : List Char) : Except TomlFault (List Char) :=
  lineEnd (skipComment (skipBlanks text))

/-- The text after blanks, line breaks and comments. -/
def skipFiller : Nat → List Char → List Char
  | 0, text => text
  | fuel + 1, text =>
    match text with
    | '#' :: rest => skipFiller fuel (rest.dropWhile isCommentChar)
    | text =>
      match lineBreak? text with
      | some rest => skipFiller fuel rest
      | none =>
        match text with
        | c :: rest => if isBlankInLine c then skipFiller fuel rest else c :: rest
        | [] => []

end TomlReader

end PluginHost
