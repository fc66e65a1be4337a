import PluginHost.Decimal.Integer
import PluginHost.Text.Blank
import PluginHost.Version.Parser

/-!
# Version constraints

Four forms: `*` for any version, `1.2.3` for exactly that one, `1.0.x` for any patch of a
minor version and `>=1.0.0 <2.0.0` for a range with its lower end only.  Reading is strict;
a reader that may not fail takes a malformed constraint for `*`.
-/

namespace PluginHost

open Text

/-- What a constraint asks of a version. -/
inductive VersionConstraint where
  | any
  | exact (version : Version)
  | minorWildcard (major minor : Nat)
  | range (lower upper : Version)
deriving DecidableEq

/-- Why a text is no constraint.  The expression comes along for the wording. -/
inductive ConstraintProblem where
  | missingUpper (expression : String)
  | inclusiveUpper (expression : String)
  | emptyRange (expression : String)
  | shortWildcard (expression : String)
  | badMajor (expression : String) (problem : IntegerProblem)
  | badMinor (expression : String) (problem : IntegerProblem)
  | notVersion (text : String) (problem : VersionProblem)
deriving DecidableEq

/-- The wording of a problem. -/
def ConstraintProblem.message : ConstraintProblem → String
  | missingUpper expression => s!"range '{expression}' is missing an upper bound"
  | inclusiveUpper expression => s!"range '{expression}' must use an exclusive upper bound"
  | emptyRange expression => s!"range '{expression}' is empty"
  | shortWildcard expression => s!"wildcard '{expression}' needs major.minor.x"
  | badMajor expression problem => s!"wildcard '{expression}': bad major: {problem.message}"
  | badMinor expression problem => s!"wildcard '{expression}': bad minor: {problem.message}"
  | notVersion text problem => s!"'{text}' is not a semantic version: {problem.message}"

namespace VersionConstraint

/-- The parts of a list before and after the first occurrence of a separator. -/
def splitOnce? (separator : Char) : List Char → Option (List Char × List Char)
  | [] => none
  | c :: rest =>
    if c == separator then some ([], rest)
    else (splitOnce? separator rest).map fun (before, after) => (c :: before, after)

/-- The text before a final `.x`, `.X` or `.*`. -/
def wildcardStem? (text : List Char) : Option (List Char) :=
  match text.reverse with
  | mark :: '.' :: stem =>
    if mark == 'x' || mark == 'X' || mark == '*' then some stem.reverse else none
  | _ => none

/-- A version with blanks around it. -/
def readVersion (text : List Char) : Except ConstraintProblem Version :=
  let trimmed := trimList text
  (Version.parseList trimmed).mapError (.notVersion (String.ofList trimmed))

/-- A range after its `>=`. -/
def readRange (expression : String) (text : List Char) :
    Except ConstraintProblem VersionConstraint :=
  match splitOnce? '<' text with
  | none => .error (.missingUpper expression)
  | some (_, '=' :: _) => .error (.inclusiveUpper expression)
  | some (lowerText, upperText) => do
    let lower ← readVersion lowerText
    let upper ← readVersion upperText
    if lower.isBelow upper then pure (.range lower upper) else throw (.emptyRange expression)

/-- A minor wildcard without its final part. -/
def readWildcard (expression : String) (stem : List Char) :
    Except ConstraintProblem VersionConstraint :=
  match splitOnce? '.' stem with
  | none => .error (.shortWildcard expression)
  | some (majorText, minorText) => do
    let major ← (IntegerRange.unsigned64.parse majorText).mapError (.badMajor expression)
    let minor ← (IntegerRange.unsigned64.parse minorText).mapError (.badMinor expression)
    pure (.minorWildcard major.toNat minor.toNat)

/-- Reads a trimmed constraint. -/
def parseTrimmed (text : List Char) : Except ConstraintProblem VersionConstraint :=
  let expression := String.ofList text
  match text with
  | [] => .ok .any
  | ['*'] => .ok .any
  | '>' :: '=' :: rest => readRange expression rest
  | text =>
    match wildcardStem? text with
    | some stem => readWildcard expression stem
    | none => (readVersion text).map .exact

/-- Reads a constraint and refuses everything outside the four forms. -/
def parseStrict (expression : String) : Except ConstraintProblem VersionConstraint :=
  parseTrimmed (trimList expression.toList)

/-- Reads a constraint; a malformed one asks for nothing. -/
def parse (expression : String) : VersionConstraint :=
  match parseStrict expression with
  | .ok constraint => constraint
  | .error _ => any

/-- Whether a version meets a constraint. -/
def matchesVersion (constraint : VersionConstraint) (version : Version) : Bool :=
  match constraint with
  | any => true
  | exact wanted => version == wanted
  | minorWildcard major minor => version.major == major && version.minor == minor
  | range lower upper => !version.isBelow lower && version.isBelow upper

/-- The written form of a constraint. -/
def text : VersionConstraint → String
  | any => "*"
  | exact version => version.text
  | minorWildcard major minor => s!"{major}.{minor}.x"
  | range lower upper => s!">={lower.text} <{upper.text}"

end VersionConstraint

/-- Whether an optional constraint admits a version. -/
def satisfies (expression : Option String) (version : Version) : Bool :=
  match expression with
  | none => true
  | some expression => (VersionConstraint.parse expression).matchesVersion version

/-- Whether a plugin made for one API version can run on a host that implements another: the
major versions are equal and the plugin's minor version is not above the host's. -/
def apiCompatible (pluginApi hostApi : Version) : Bool :=
  pluginApi.major == hostApi.major && pluginApi.minor ≤ hostApi.minor

end PluginHost
