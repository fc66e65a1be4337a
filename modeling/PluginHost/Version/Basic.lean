/-!
# Semantic versions

Three numbers, a pre-release and build metadata.  The order is by the numbers; then a version
without pre-release is above one with it, pre-releases compare identifier by identifier, and
build metadata decides last.
-/

namespace PluginHost

/-- A semantic version.  A version without pre-release or build metadata has an empty list of
identifiers there. -/
structure Version where
  major : Nat
  minor : Nat
  patch : Nat
  preRelease : List String
  build : List String
deriving DecidableEq

namespace Version

/-- The version with the given numbers and nothing else. -/
def ofNumbers (major minor patch : Nat) : Version :=
  ⟨major, minor, patch, [], []⟩

instance : Inhabited Version := ⟨ofNumbers 0 0 0⟩

/-- Whether an identifier consists of digits only. -/
def isNumeric (identifier : String) : Bool :=
  identifier.toList.all Char.isDigit

/-- Compares two pre-release identifiers: numbers by value and below all others, others by
their characters. -/
def compareIdentifiers (left right : String) : Ordering :=
  match isNumeric left, isNumeric right with
  | false, true => .gt
  | true, false => .lt
  | false, false => compare left right
  | true, true => (compare left.length right.length).then (compare left right)

/-- The digits of an identifier without leading zeros. -/
def withoutLeadingZeros (identifier : String) : String :=
  String.ofList (identifier.toList.dropWhile (· == '0'))

/-- Compares two build identifiers; of two spellings of one number the shorter is less. -/
def compareBuildIdentifiers (left right : String) : Ordering :=
  match isNumeric left, isNumeric right with
  | false, true => .gt
  | true, false => .lt
  | false, false => compare left right
  | true, true =>
    let leftDigits := withoutLeadingZeros left
    let rightDigits := withoutLeadingZeros right
    ((compare leftDigits.length rightDigits.length).then (compare leftDigits rightDigits)).then
      (compare left.length right.length)

/-- Compares identifier by identifier; a list that goes on is above its beginning. -/
def compareLists (compareItems : String → String → Ordering) :
    List String → List String → Ordering
  | [], [] => .eq
  | [], _ :: _ => .lt
  | _ :: _, [] => .gt
  | left :: lefts, right :: rights =>
    (compareItems left right).then (compareLists compareItems lefts rights)

/-- Compares pre-releases; none at all is above any. -/
def comparePreReleases : List String → List String → Ordering
  | [], [] => .eq
  | [], _ :: _ => .gt
  | _ :: _, [] => .lt
  | left, right => compareLists compareIdentifiers left right

/-- The order of versions. -/
def order (left right : Version) : Ordering :=
  (compare left.major right.major).then <|
    (compare left.minor right.minor).then <|
      (compare left.patch right.patch).then <|
        (comparePreReleases left.preRelease right.preRelease).then <|
          compareLists compareBuildIdentifiers left.build right.build

/-- Whether a version is below another. -/
def isBelow (left right : Version) : Bool :=
  left.order right == .lt

/-- The written form: the numbers with points, `-` before a pre-release and `+` before build
metadata. -/
def text (version : Version) : String :=
  let numbers := s!"{version.major}.{version.minor}.{version.patch}"
  let preRelease :=
    if version.preRelease.isEmpty then "" else "-" ++ ".".intercalate version.preRelease
  let build := if version.build.isEmpty then "" else "+" ++ ".".intercalate version.build
  numbers ++ preRelease ++ build

end Version

end PluginHost
