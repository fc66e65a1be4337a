import PluginHost.Settings.Diagnostic

/-!
# Reports on settings that are refused

A report shows a diagnostic with its code, its wording and its help.  The place of an unknown
key is shown in its line, with the lines next to it, and marked below.
-/

namespace PluginHost

/-- A text repeated a number of times. -/
def repeated (count : Nat) (text : String) : String :=
  String.join (List.replicate count text)

/-- A text after blanks that fill it up to a width. -/
def paddedLeft (width : Nat) (text : String) : String :=
  repeated (width - text.length) " " ++ text

namespace KeyPlace

/-- A line of a text: its number, the number of bytes before it, and its characters with the
line break. -/
structure Line where
  number : Nat
  offset : Nat
  chars : List Char

/-- Numbers the lines of a text and counts the bytes before each. -/
def numberLines : Nat → Nat → List (List Char) → List Line
  | _, _, [] => []
  | number, offset, chars :: rest =>
    ⟨number, offset, chars⟩ :: numberLines (number + 1) (offset + textSize chars) rest

/-- The characters of a line without its line break. -/
def Line.shown (line : Line) : List Char :=
  let chars := if line.chars.getLast? == some '\n' then line.chars.dropLast else line.chars
  if chars.getLast? == some '\r' then chars.dropLast else chars

/-- The number of columns between tab stops. -/
def tabWidth : Nat := 4

/-- A line with blanks for its tabs. -/
def expandTabs : Nat → List Char → List Char
  | _, [] => []
  | column, c :: rest =>
    if c == '\t' then
      let width := tabWidth - column % tabWidth
      List.replicate width ' ' ++ expandTabs (column + width) rest
    else
      c :: expandTabs (column + 1) rest

/-- The characters of a line that take its first bytes. -/
def firstBytes : Nat → List Char → List Char
  | 0, _ => []
  | _, [] => []
  | size + 1, c :: rest => c :: firstBytes (size + 1 - c.utf8Size) rest

/-- The column at which a place in a line is shown. -/
def Line.column (line : Line) (offset : Nat) : Nat :=
  (expandTabs 0 (firstBytes (offset - line.offset) line.shown)).length

/-- The mark below a key, and the label that hangs from it. -/
def marks (margin : String) (line : Line) (place : KeyPlace) : List String :=
  let start := line.column place.offset
  let stop := max (line.column (place.offset + place.size)) (start + 1)
  let middle := if place.size == 0 then start else (start + stop) / 2
  let pointer := if place.size == 0 then "^" else "|"
  [margin ++ repeated start " " ++ repeated (middle - start) "^" ++ pointer ++
      repeated (stop - middle - 1) "^",
    margin ++ repeated middle " " ++ "`-- this key is not recognized"]

/-- The lines that show a place: its line with its mark, and the lines before and after. -/
def excerpt (place : KeyPlace) : List String :=
  let lines := numberLines 1 0 (linesOf place.source.content.toList)
  let before := lines.takeWhile fun line => line.offset + textSize line.chars ≤ place.offset
  match lines.drop before.length with
  | [] => []
  | line :: after =>
    let context := before.drop (before.length - 1) ++ line :: after.take 1
    let last := (context.getLast?.getD line).number
    let width := (toString last).length
    let margin := " " ++ repeated width " " ++ " : "
    let shown := context.flatMap fun other =>
      (" " ++ paddedLeft width (toString other.number) ++ " | " ++
        String.ofList (expandTabs 0 other.shown)) ::
        (if other.number == line.number then marks margin line place else [])
    let column := place.offset - line.offset + 1
    let indent := repeated (width + 2) " "
    (indent ++ s!",-[{place.source.name}:{line.number}:{column}]") :: shown ++
      [indent ++ "`----"]

end KeyPlace

namespace SettingsDiagnostic

/-- The place that a diagnostic shows. -/
def place? : SettingsDiagnostic → Option KeyPlace
  | unknownKey _ _ _ place => place
  | _ => none

/-- A text whose first line follows one indent and whose other lines follow another. -/
def indented (first other text : String) : List String :=
  match Text.split '\n' text with
  | [] => []
  | line :: lines => (first ++ line) :: lines.map (other ++ ·)

/-- The report on a diagnostic. -/
def report (diagnostic : SettingsDiagnostic) : String :=
  let excerpt := (diagnostic.place?.map KeyPlace.excerpt).getD []
  let help := (diagnostic.help?.map (indented "  help: " "        ")).getD []
  String.join ((diagnostic.code :: "" :: indented "  x " "  | " diagnostic.message ++
    excerpt ++ help).map (· ++ "\n"))

end SettingsDiagnostic

end PluginHost
