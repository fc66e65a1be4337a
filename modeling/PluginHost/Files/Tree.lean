import PluginHost.Files.Path
import PluginHost.KeyedList
import PluginHost.Text.Utf8

/-!
# Trees of files

A tree holds files and directories below its root.  Looking up a path follows its pieces one
by one: a piece leads on only from a directory, two dots lead back.  A directory lists what it has
in an order of its own; readers that need an order sort the names.
-/

namespace PluginHost

/-- A file or a directory. -/
inductive FileTree where
  | file (bytes : List UInt8)
  | directory (entries : List (String × FileTree))

/-- Why a file or a directory cannot be read. -/
inductive FileProblem where
  | missing
  | notADirectory
  | isADirectory
  | notText
deriving DecidableEq

/-- The wording of a problem. -/
def FileProblem.message : FileProblem → String
  | missing => "No such file or directory (os error 2)"
  | notADirectory => "Not a directory (os error 20)"
  | isADirectory => "Is a directory (os error 21)"
  | notText => "stream did not contain valid UTF-8"

namespace FileTree

/-- Whether a tree is a directory. -/
def isDirectory : FileTree → Bool
  | directory _ => true
  | file _ => false

/-- The tree under names that lead down from its root. -/
def descend? : List String → FileTree → Option FileTree
  | [], tree => some tree
  | name :: names, directory entries => (KeyedList.get? name entries).bind (descend? names)
  | _ :: _, file _ => none

/-- Follows pieces of a path from a place, given by the names that lead there, innermost
first. -/
def follow (root : FileTree) : List String → List String → Except FileProblem (List String)
  | [], place => .ok place
  | piece :: pieces, place =>
    match descend? place.reverse root with
    | none => .error .missing
    | some (file _) => .error .notADirectory
    | some (directory entries) =>
      if piece == "" || piece == "." then follow root pieces place
      else if piece == ".." then follow root pieces place.tail
      else if KeyedList.contains piece entries then follow root pieces (piece :: place)
      else .error .missing

/-- The names that lead to a path from the root. -/
def locate (root : FileTree) (workingDirectory path : String) :
    Except FileProblem (List String) :=
  let whole := if path == "" then "" else Path.join workingDirectory path
  match Path.pieces whole with
  | "" :: piece :: pieces => (follow root (piece :: pieces) []).map List.reverse
  | _ => .error .missing

/-- The tree at a path. -/
def find (root : FileTree) (workingDirectory path : String) : Except FileProblem FileTree :=
  match locate root workingDirectory path with
  | .error problem => .error problem
  | .ok names =>
    match descend? names root with
    | some found => .ok found
    | none => .error .missing

/-- A tree with another one put under names that lead down, and with the directories that are
missing on the way. -/
def put : FileTree → List String → FileTree → FileTree
  | _, [], content => content
  | tree, name :: names, content =>
    let entries :=
      match tree with
      | directory entries => entries
      | file _ => []
    let inner := (KeyedList.get? name entries).getD (directory [])
    directory (KeyedList.insert name (put inner names content) entries)

end FileTree

/-- Puts a name before the first one that is not less. -/
def insertName (name : String) : List String → List String
  | [] => [name]
  | other :: rest => if name ≤ other then name :: other :: rest else other :: insertName name rest

/-- Names in increasing order. -/
def inOrder (names : List String) : List String :=
  names.foldr insertName []

/-- Files and a working directory from which paths are meant. -/
structure FileView where
  root : FileTree
  workingDirectory : String

namespace FileView

/-- What is at a path. -/
def find (files : FileView) (path : String) : Except FileProblem FileTree :=
  files.root.find files.workingDirectory path

/-- Whether a path leads to a file. -/
def isFile (files : FileView) (path : String) : Bool :=
  match files.find path with
  | .ok (.file _) => true
  | _ => false

/-- Whether a path leads to a directory. -/
def isDirectory (files : FileView) (path : String) : Bool :=
  match files.find path with
  | .ok (.directory _) => true
  | _ => false

/-- The bytes of the file at a path. -/
def readBytes (files : FileView) (path : String) : Except FileProblem (List UInt8) :=
  match files.find path with
  | .error problem => .error problem
  | .ok (.directory _) => .error .isADirectory
  | .ok (.file bytes) => .ok bytes

/-- The text of the file at a path. -/
def readText (files : FileView) (path : String) : Except FileProblem String :=
  match files.readBytes path with
  | .error problem => .error problem
  | .ok bytes =>
    match Text.decodeText? bytes with
    | some text => .ok text
    | none => .error .notText

/-- The names in the directory at a path, as the directory lists them. -/
def listing (files : FileView) (path : String) : Except FileProblem (List String) :=
  match files.find path with
  | .error problem => .error problem
  | .ok (.file _) => .error .notADirectory
  | .ok (.directory entries) => .ok (KeyedList.keys entries)

/-- The names in the directory at a path, in increasing order. -/
def names (files : FileView) (path : String) : Except FileProblem (List String) :=
  (files.listing path).map inOrder

/-- The absolute path without dots that leads to the same place; the path itself if it leads
nowhere. -/
def canonical (files : FileView) (path : String) : String :=
  match files.root.locate files.workingDirectory path with
  | .ok names => Path.ofParts names
  | .error _ => path

end FileView

end PluginHost
