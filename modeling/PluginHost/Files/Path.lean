import PluginHost.Text.Blank

/-!
# Paths of files

Paths are texts whose parts are separated by slashes.  A path that starts with a slash is
absolute; any other is meant from a working directory.
-/

namespace PluginHost

open Text

namespace Path

/-- Whether a path starts at the root. -/
def isAbsolute (path : String) : Bool :=
  path.toList.head? == some '/'

/-- The pieces of a path between its slashes, empty ones included. -/
def pieces (path : String) : List String :=
  split '/' path

/-- The parts of a path that lead somewhere: without empty pieces and single dots. -/
def parts (path : String) : List String :=
  (pieces path).filter fun piece => piece != "" && piece != "."

/-- A path from a directory; an absolute one stands for itself. -/
def join (directory path : String) : String :=
  if isAbsolute path || directory == "" then path
  else if directory.toList.getLast? == some '/' then directory ++ path
  else directory ++ "/" ++ path

/-- The last part of a path, unless it leads upwards. -/
def fileName? (path : String) : Option String :=
  ((parts path).getLast?).filter (· != "..")

/-- The absolute path of parts. -/
def ofParts (names : List String) : String :=
  "/" ++ "/".intercalate names

/-- What remains of two lists after the elements that both begin with. -/
def afterCommon : List String → List String → List String × List String
  | left :: lefts, right :: rights =>
    if left == right then afterCommon lefts rights else (left :: lefts, right :: rights)
  | lefts, rights => (lefts, rights)

/-- An absolute path as it is written from a directory, if that takes fewer parts. -/
def seenFrom (directory path : String) : String :=
  let (up, down) := afterCommon (parts directory) (parts path)
  let steps := up.map (fun _ => "..") ++ down
  if isAbsolute path && !up.contains ".." && steps.length < (parts path).length + 1 then
    "/".intercalate steps
  else
    path

/-- The paths from the place that names lead to, innermost first, up to the root. -/
def upwards : List String → List String
  | [] => [ofParts []]
  | name :: names => ofParts (name :: names).reverse :: upwards names

/-- The directories from a directory up to the root, nearest first. -/
def ancestors (directory : String) : List String :=
  upwards (parts directory).reverse

end Path

end PluginHost
