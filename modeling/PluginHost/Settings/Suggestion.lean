import PluginHost.Text.Blank
import PluginHost.Text.Similarity

/-!
# Help with unknown keys

For a key that no setting has, the most similar valid key is suggested, and the key's place in
the source is looked up: after the header of the section it was found in, at the start of a
line.
-/

namespace PluginHost

open Text

/-- The similarity that a suggestion must exceed, three quarters. -/
def suggestionThreshold : Double :=
  ratio 3 4

/-- The valid key that is most similar to an unknown one, the first of several, if one is
similar enough. -/
def suggestKey? (unknown : String) (validKeys : List String) : Option String :=
  (validKeys.foldl (fun (best, found) key =>
    let score := similarity unknown key
    if best.steps < score.steps then (score, some key) else (best, found))
    (suggestionThreshold, none)).2

/-- The number of bytes of a list of characters. -/
def textSize (text : List Char) : Nat :=
  text.foldl (fun size c => size + c.utf8Size) 0

/-- The text after the first occurrence of a part, and the number of bytes before it. -/
def afterFirst? (part : List Char) : List Char → Option (Nat × List Char)
  | [] => (stripLeading? part []).map fun rest => (textSize part, rest)
  | c :: text =>
    match stripLeading? part (c :: text) with
    | some rest => some (textSize part, rest)
    | none => (afterFirst? part text).map fun (size, rest) => (size + c.utf8Size, rest)

/-- The lines of a text, each with the line break that ends it. -/
def linesOf : List Char → List (List Char)
  | [] => []
  | c :: rest =>
    if c == '\n' then
      [c] :: linesOf rest
    else
      match linesOf rest with
      | [] => [[c]]
      | line :: lines => (c :: line) :: lines

/-- Whether a line, after its blanks, starts with a key and a mark that ends the key. -/
def startsWithKey (key line : List Char) : Bool :=
  match stripLeading? key (line.dropWhile isBlank) with
  | some (c :: _) => c == ' ' || c == '=' || c == '\t'
  | _ => false

/-- The place of a key in the first line that starts with it, from the start of the lines. -/
def keyPlaceIn? (key : List Char) : List (List Char) → Option Nat
  | [] => none
  | line :: rest =>
    if startsWithKey key line then some (textSize (line.takeWhile isBlank))
    else (keyPlaceIn? key rest).map (textSize line + ·)

/-- The number of bytes before a key in a source, searched for after the header of the section
that the path begins with. -/
def keyPlace? (content : String) (path : List String) (key : String) : Option Nat :=
  match path with
  | [] => keyPlaceIn? key.toList (linesOf content.toList)
  | name :: _ =>
    match afterFirst? ('[' :: (name.toList ++ [']'])) content.toList with
    | none => none
    | some (start, rest) => (keyPlaceIn? key.toList (linesOf rest)).map (start + ·)

end PluginHost
