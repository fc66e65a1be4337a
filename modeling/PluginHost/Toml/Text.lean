import PluginHost.Decimal.Integer
import PluginHost.Toml.Basic

/-!
# Strings in TOML

A string stands between double quotes, with escapes, or between single quotes, as it is; three
quotes on each side let it span lines.  A scan reads the characters one by one onto those read
so far, newest first, and may skip the characters that an escape takes.
-/

namespace PluginHost

namespace TomlReader

/-! ### Escapes -/

/-- Whether a character of a string between double quotes stands for itself. -/
def isBasicChar (c : Char) : Bool :=
  c == '\t' || (0x20 ≤ c.toNat && c != '"' && c != '\\' && c != '\x7f')

/-- Whether a character of a string between single quotes stands for itself. -/
def isLiteralChar (c : Char) : Bool :=
  c == '\t' || (0x20 ≤ c.toNat && c != '\'' && c != '\x7f')

/-- The value of a hexadecimal digit. -/
def hexDigit? (c : Char) : Option Nat :=
  if c.isDigit then some (c.toNat - '0'.toNat)
  else if 'a' ≤ c && c ≤ 'f' then some (c.toNat - 'a'.toNat + 10)
  else if 'A' ≤ c && c ≤ 'F' then some (c.toNat - 'A'.toNat + 10)
  else none

/-- The number that hexadecimal digits spell. -/
def hexValue? (digits : List Char) : Option Nat :=
  digits.foldlM (fun value c => (hexDigit? c).map (value * 16 + ·)) 0

/-- The character whose code point takes `size` hexadecimal digits at the start of a text. -/
def codePoint (size : Nat) (text : List Char) : Except TomlFault (Char × Nat) :=
  let digits := text.take size
  match hexValue? digits with
  | some code =>
    if digits.length == size && code.isValidChar then .ok (Char.ofNat code, size + 1)
    else final text
  | none => final text

/-- The character that an escape stands for and the number of characters after the backslash
that spell it. -/
def escape (text : List Char) : Except TomlFault (Char × Nat) :=
  match text with
  | [] => final ['\\']
  | 'b' :: _ => .ok ('\x08', 1)
  | 'f' :: _ => .ok ('\x0c', 1)
  | 'n' :: _ => .ok ('\n', 1)
  | 'r' :: _ => .ok ('\r', 1)
  | 't' :: _ => .ok ('\t', 1)
  | '\\' :: _ => .ok ('\\', 1)
  | '"' :: _ => .ok ('"', 1)
  | 'u' :: rest => codePoint 4 rest
  | 'U' :: rest => codePoint 8 rest
  | c :: rest => if c.toNat < 0x80 then final rest else final (c :: rest)

/-! ### Strings within a line -/

/-- Scans a string between double quotes up to its closing quote. -/
def scanBasic : List Char → Nat → List Char → Step String
  | [], _, _ => final []
  | _ :: rest, skip + 1, read => scanBasic rest skip read
  | c :: rest, 0, read =>
    if c == '"' then .ok (String.ofList read.reverse, rest)
    else if c == '\\' then
      match escape rest with
      | .ok (value, size) => scanBasic rest size (value :: read)
      | .error fault => .error fault
    else if isBasicChar c then scanBasic rest 0 (c :: read)
    else final (c :: rest)

/-- Scans a string between single quotes up to its closing quote. -/
def scanLiteral : List Char → List Char → Step String
  | [], _ => final []
  | c :: rest, read =>
    if c == '\'' then .ok (String.ofList read.reverse, rest)
    else if isLiteralChar c then scanLiteral rest (c :: read)
    else final (c :: rest)

/-! ### Strings of several lines -/

/-- The number of times a character stands at the start of a text. -/
def runLength (c : Char) (text : List Char) : Nat :=
  (text.takeWhile (· == c)).length

/-- The number of characters from a line break, after blanks, through blanks and further line
breaks; none if no line break comes next. -/
def foldedLines? (text : List Char) : Option Nat :=
  (lineBreak? (skipBlanks text)).map fun rest => text.length - (skipLines rest).length
where
  /-- The text after blanks and line breaks. -/
  skipLines : List Char → List Char
    | '\r' :: '\n' :: rest => skipLines rest
    | c :: rest => if isBlankInLine c || c == '\n' then skipLines rest else c :: rest
    | [] => []

/-- Whether the content of a string of several lines goes on with something other than a
quote. -/
def startsContent (isPlain : Char → Bool) (text : List Char) : Bool :=
  match text with
  | c :: _ => isPlain c || (lineBreak? text).isSome
  | [] => false

/-- The number of quotes at the end of a string of several lines that belong to it, when a run
of quotes closes it. -/
def quotesKept (run : Nat) : Nat :=
  min 2 (run - 3)

/-- Scans a string between three double quotes up to its closing quotes. -/
def scanLongBasic : List Char → Nat → List Char → Step String
  | [], _, _ => final []
  | _ :: rest, skip + 1, read => scanLongBasic rest skip read
  | c :: rest, 0, read =>
    if c == '"' then
      let run := runLength '"' (c :: rest)
      if 3 ≤ run then
        .ok (String.ofList (List.replicate (quotesKept run) '"' ++ read).reverse,
          (c :: rest).drop (quotesKept run + 3))
      else
        let after := (c :: rest).drop run
        if startsContent (fun d => isBasicChar d || d == '\\') after then
          scanLongBasic rest (run - 1) (List.replicate run '"' ++ read)
        else if after.isEmpty then final (c :: rest)
        else final after
    else if c == '\\' then
      match foldedLines? rest with
      | some size => scanLongBasic rest size read
      | none =>
        match escape rest with
        | .ok (value, size) => scanLongBasic rest size (value :: read)
        | .error fault => .error fault
    else if isBasicChar c || c == '\n' then scanLongBasic rest 0 (c :: read)
    else
      match lineBreak? (c :: rest) with
      | some _ => scanLongBasic rest 1 ('\n' :: read)
      | none => final (c :: rest)

/-- Scans a string between three single quotes up to its closing quotes. -/
def scanLongLiteral : List Char → Nat → List Char → Step String
  | [], _, _ => final []
  | _ :: rest, skip + 1, read => scanLongLiteral rest skip read
  | c :: rest, 0, read =>
    if c == '\'' then
      let run := runLength '\'' (c :: rest)
      if 3 ≤ run then
        .ok (String.ofList (List.replicate (quotesKept run) '\'' ++ read).reverse,
          (c :: rest).drop (quotesKept run + 3))
      else if startsContent isLiteralChar ((c :: rest).drop run) then
        scanLongLiteral rest (run - 1) (List.replicate run '\'' ++ read)
      else
        final (c :: rest)
    else if isLiteralChar c || c == '\n' then scanLongLiteral rest 0 (c :: read)
    else
      match lineBreak? (c :: rest) with
      | some _ => scanLongLiteral rest 1 ('\n' :: read)
      | none => final (c :: rest)

/-- The text after a line break that may come next. -/
def skipLineBreak (text : List Char) : List Char :=
  (lineBreak? text).getD text

/-- A string within a line. -/
def shortString (text : List Char) : Step String :=
  match text with
  | '"' :: rest => scanBasic rest 0 []
  | '\'' :: rest => scanLiteral rest []
  | text => soft text

/-- A string of any kind.  A line break right after three opening quotes is left out. -/
def string (text : List Char) : Step String :=
  match text with
  | '"' :: '"' :: '"' :: rest => scanLongBasic (skipLineBreak rest) 0 []
  | '\'' :: '\'' :: '\'' :: rest => scanLongLiteral (skipLineBreak rest) 0 []
  | text => shortString text

end TomlReader

end PluginHost
