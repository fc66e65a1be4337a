/-!
# Blank characters

The Unicode white space, and cutting it from the ends of a text.
-/

namespace PluginHost.Text

/-- Whether a character is white space in the sense of Unicode's `White_Space` property. -/
def isBlank (c : Char) : Bool :=
  let code := c.toNat
  (0x9 ≤ code && code ≤ 0xd) || code == 0x20 || code == 0x85 || code == 0xa0 ||
    code == 0x1680 || (0x2000 ≤ code && code ≤ 0x200a) || code == 0x2028 || code == 0x2029 ||
    code == 0x202f || code == 0x205f || code == 0x3000

/-- A list without its leading elements of a class. -/
def dropLeading (skip : Char → Bool) (text : List Char) : List Char :=
  text.dropWhile skip

/-- A list without its trailing elements of a class. -/
def dropTrailing (skip : Char → Bool) (text : List Char) : List Char :=
  (text.reverse.dropWhile skip).reverse

/-- A text without white space at its ends. -/
def trimList (text : List Char) : List Char :=
  dropTrailing isBlank (dropLeading isBlank text)

/-- A text without white space at its ends. -/
def trim (text : String) : String :=
  String.ofList (trimList text.toList)

/-- Whether a text consists of white space only. -/
def isBlankText (text : String) : Bool :=
  text.toList.all isBlank

/-- The pieces of a list between occurrences of a separator; there is always at least one. -/
def splitList (separator : Char) : List Char → List (List Char)
  | [] => [[]]
  | c :: rest =>
    if c == separator then
      [] :: splitList separator rest
    else
      match splitList separator rest with
      | [] => [[c]]
      | piece :: pieces => (c :: piece) :: pieces

/-- The pieces of a text between occurrences of a separator. -/
def split (separator : Char) (text : String) : List String :=
  (splitList separator text.toList).map String.ofList

/-- A list after a leading part, if it starts with it. -/
def stripLeading? : List Char → List Char → Option (List Char)
  | [], text => some text
  | _ :: _, [] => none
  | c :: leading, d :: text => if c == d then stripLeading? leading text else none

end PluginHost.Text
