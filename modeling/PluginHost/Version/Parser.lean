import PluginHost.Decimal.Reading
import PluginHost.Text.Quoted
import PluginHost.Version.Basic

/-!
# Reading semantic versions

The reader goes from left to right and names the part in which the first problem lies.
-/

namespace PluginHost

open Text

/-- The part of a version that is being read. -/
inductive VersionPart where
  | major
  | minor
  | patch
  | preRelease
  | build
deriving DecidableEq

/-- Why a text is no semantic version. -/
inductive VersionProblem where
  | empty
  | unexpectedEnd (part : VersionPart)
  | unexpectedChar (part : VersionPart) (found : Char)
  | unexpectedCharAfter (part : VersionPart) (found : Char)
  | leadingZero (part : VersionPart)
  | overflow (part : VersionPart)
  | emptySegment (part : VersionPart)
deriving DecidableEq

/-- How a part is named. -/
def VersionPart.name : VersionPart → String
  | major => "major version number"
  | minor => "minor version number"
  | patch => "patch version number"
  | preRelease => "pre-release identifier"
  | build => "build metadata"

/-- The wording of a problem. -/
def VersionProblem.message : VersionProblem → String
  | empty => "empty string, expected a semver version"
  | unexpectedEnd part => s!"unexpected end of input while parsing {part.name}"
  | unexpectedChar part found =>
    s!"unexpected character {quotedCharacter found} while parsing {part.name}"
  | unexpectedCharAfter part found =>
    s!"unexpected character {quotedCharacter found} after {part.name}"
  | leadingZero part => s!"invalid leading zero in {part.name}"
  | overflow part => s!"value of {part.name} exceeds u64::MAX"
  | emptySegment part => s!"empty identifier segment in {part.name}"

namespace Version

/-- The greatest number in a version. -/
def greatestNumber : Nat :=
  Nat.pow 2 64 - 1

/-- Reads digits onto a value, of which `count` have been read. -/
def numberOnto (part : VersionPart) :
    Nat → Nat → List Char → Except VersionProblem (Nat × Nat × List Char)
  | value, count, [] => .ok (value, count, [])
  | value, count, c :: rest =>
    if !c.isDigit then
      .ok (value, count, c :: rest)
    else if value == 0 && 0 < count then
      .error (.leadingZero part)
    else
      let extended := value * 10 + digitValue c
      if greatestNumber < extended then .error (.overflow part)
      else numberOnto part extended (count + 1) rest

/-- A number without leading zeros, and the text after it. -/
def readNumber (part : VersionPart) (text : List Char) :
    Except VersionProblem (Nat × List Char) :=
  match numberOnto part 0 0 text with
  | .error problem => .error problem
  | .ok (_, 0, []) => .error (.unexpectedEnd part)
  | .ok (_, 0, found :: _) => .error (.unexpectedChar part found)
  | .ok (value, _ + 1, rest) => .ok (value, rest)

/-- The text after a point. -/
def readPoint (part : VersionPart) : List Char → Except VersionProblem (List Char)
  | '.' :: rest => .ok rest
  | [] => .error (.unexpectedEnd part)
  | found :: _ => .error (.unexpectedCharAfter part found)

/-- Whether a character may stand in an identifier. -/
def isIdentifierChar (c : Char) : Bool :=
  c.isAlphanum || c == '-'

/-- Whether an identifier is a number with a zero in front, which pre-releases refuse. -/
def hasLeadingZero (part : VersionPart) (segment : List Char) : Bool :=
  part == .preRelease && segment.all Char.isDigit && 1 < segment.length &&
    segment.head? == some '0'

/-- Identifiers separated by points: those of earlier segments and the current segment, both
in reverse order, and the text that is left. -/
def identifiersOnto (part : VersionPart) :
    List String → List Char → List Char → Except VersionProblem (List String × List Char)
  | done, segment, text =>
    let close : Except VersionProblem (List String) :=
      if segment.isEmpty then .error (.emptySegment part)
      else if hasLeadingZero part segment.reverse then .error (.leadingZero part)
      else .ok (String.ofList segment.reverse :: done)
    match text with
    | [] => close.map fun done => (done.reverse, [])
    | c :: rest =>
      if isIdentifierChar c then
        identifiersOnto part done (c :: segment) rest
      else
        match close with
        | .error problem => .error problem
        | .ok done =>
          if c == '.' then identifiersOnto part done [] rest
          else .ok (done.reverse, c :: rest)

/-- The identifiers after a mark, or none where the mark is missing. -/
def readMarked (part : VersionPart) (mark : Char) (current : VersionPart)
    (text : List Char) : Except VersionProblem (List String × VersionPart × List Char) :=
  match text with
  | c :: rest =>
    if c == mark then
      (identifiersOnto part [] [] rest).map fun (found, rest) => (found, part, rest)
    else
      .ok ([], current, text)
  | [] => .ok ([], current, [])

/-- The version that a list of characters spells. -/
def parseList (text : List Char) : Except VersionProblem Version := do
  if text.isEmpty then
    throw .empty
  let (major, text) ← readNumber .major text
  let text ← readPoint .major text
  let (minor, text) ← readNumber .minor text
  let text ← readPoint .minor text
  let (patch, text) ← readNumber .patch text
  let (preRelease, current, text) ← readMarked .preRelease '-' .patch text
  let (build, current, text) ← readMarked .build '+' current text
  match text with
  | [] => pure ⟨major, minor, patch, preRelease, build⟩
  | found :: _ => throw (.unexpectedCharAfter current found)

/-- The version that a text spells. -/
def parse (text : String) : Except VersionProblem Version :=
  parseList text.toList

end Version

end PluginHost
