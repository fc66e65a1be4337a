import PluginHost.Text.Classes

/-!
# Quoted text

A text between double quotes, with quotes, backslashes and everything that would not show
spelled as an escape.
-/

namespace PluginHost.Text

/-- An escape by code point, in lower-case hexadecimal without leading zeros. -/
def codePointEscape (c : Char) : List Char :=
  ['\\', 'u', '\x7b'] ++ Nat.toDigits 16 c.toNat ++ ['\x7d']

/-- The spelling of one character between double quotes. -/
def quotedChar (c : Char) : List Char :=
  if c == '\x00' then ['\\', '0']
  else if c == '\t' then ['\\', 't']
  else if c == '\r' then ['\\', 'r']
  else if c == '\n' then ['\\', 'n']
  else if c == '\\' then ['\\', '\\']
  else if c == '"' then ['\\', '"']
  else if isExtending c then codePointEscape c
  else if isPrintable c then [c]
  else codePointEscape c

/-- A text in double quotes. -/
def quoted (text : String) : String :=
  String.ofList ('"' :: (text.toList.flatMap quotedChar ++ ['"']))

/-- A single character between single quotes. -/
def quotedCharacter (c : Char) : String :=
  let spelled :=
    if c == '\'' then ['\\', '\'']
    else if c == '"' then ['"']
    else quotedChar c
  String.ofList ('\'' :: (spelled ++ ['\'']))

end PluginHost.Text
