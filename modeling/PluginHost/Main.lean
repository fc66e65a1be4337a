import PluginHost.CommandLine.Outcome

/-!
# The program

The outer layer: it reads the environment and those files that a command line can lead to,
hands them over as surroundings, and prints what the command line comes to.  It has no network,
so that a host that is ready to serve ends as one whose address cannot be listened at.
-/

namespace PluginHost

/-- What is at a path, with so many levels of directories. -/
def readTree : Nat → String → IO (Option FileTree)
  | depth, path => do
    let place := System.mkFilePath [path]
    if ← place.isDir then
      match depth with
      | 0 => return some (.directory [])
      | depth + 1 =>
        match ← place.readDir.toBaseIO with
        | .error _ => return none
        | .ok entries =>
          let read ← entries.toList.filterMapM fun entry => do
            let inner ← readTree depth (Path.join path entry.fileName)
            return inner.map fun tree => (entry.fileName, tree)
          return some (.directory (KeyedList.ofList read))
    else
      match ← (IO.FS.readBinFile place).toBaseIO with
      | .ok bytes => return some (.file bytes.toList)
      | .error _ => return none

/-- The places that a path leads through from a place, given by names, innermost first. -/
def placesThrough : List String → List String → List (List String)
  | place, [] => [place.reverse]
  | place, ".." :: rest => place.reverse :: placesThrough place.tail rest
  | place, piece :: rest => place.reverse :: placesThrough (piece :: place) rest

/-- A tree with what is at a place, unless it knows the place already at no greater depth. -/
def withPlace (depth : Nat) (tree : FileTree) (names : List String) : IO FileTree := do
  if depth == 0 && (tree.descend? names).isSome then
    return tree
  else
    match ← readTree depth (Path.ofParts names) with
    | some found => return tree.put names found
    | none => return tree

/-- A tree with what is at a path, with so many levels of directories, and with the
directories on the way. -/
def withPath (workingDirectory : String) (depth : Nat) (tree : FileTree) (path : String) :
    IO FileTree := do
  let places := placesThrough [] (Path.parts (Path.join workingDirectory path))
  let tree ← places.dropLast.foldlM (withPlace 0) tree
  (places.getLast?.toList).foldlM (withPlace depth) tree

/-- The environment of the program, in the order in which it is listed. -/
def readEnvironment : IO Environment := do
  let bytes ← IO.FS.readBinFile "/proc/self/environ"
  let entries := Text.splitList '\x00' ((Text.symbolsText (Text.decode bytes.toList)).toList)
  return entries.filterMap fun entry =>
    match entry.span fun c => c != '=' with
    | (name, _ :: value) => some (String.ofList name, String.ofList value)
    | (_, []) => none

/-- The files that settings may be in. -/
def settingsFiles (surroundings : Surroundings) (command : Command) : List String :=
  match command.settingsFile? with
  | some file => [file]
  | none =>
    [Surroundings.systemFile] ++ surroundings.userFile?.toList ++
      (Path.ancestors surroundings.files.workingDirectory).map (Path.join · settingsFileName)

/-- The files and directories that a command looks at with its settings, with the levels of
directories that it needs of them. -/
def commandFiles (settings : HostSettings) : Command → List (String × Nat)
  | .checkManifest path _ => [(path, 2)]
  | _ => [(settings.plugins.directory, 3)]

/-- The surroundings of a command. -/
def readSurroundings (command : Command) (start : Surroundings) : IO Surroundings := do
  let directory := start.files.workingDirectory
  let tree ← (settingsFiles start command).foldlM (withPath directory 1) start.files.root
  let read := { start with files := { start.files with root := tree } }
  match command.settings read with
  | .error _ => return read
  | .ok settings =>
    let tree ← (commandFiles settings command).foldlM
      (fun tree entry => withPath directory entry.2 tree entry.1) tree
    return { start with files := { start.files with root := tree } }

/-- Prints how a program ends and gives its status. -/
def ProgramResult.print (result : ProgramResult) : IO UInt32 := do
  IO.print result.output
  IO.eprint result.errors
  return UInt32.ofNat result.status

/-- Ends a program whose host is ready to serve. -/
def ServingHost.conclude (host : ServingHost) : ProgramResult :=
  match listenAt host.address (some .unsupported) with
  | .ok () => .printed ""
  | .error error => .failed error

end PluginHost

open PluginHost in
/-- Follows the command line of the program. -/
def main (arguments : List String) : IO UInt32 := do
  let environment ← readEnvironment
  let directory ← IO.currentDir
  let root := FileTree.put (.directory []) (Path.parts directory.toString) (.directory [])
  let start : Surroundings := ⟨⟨root, directory.toString⟩, environment⟩
  let surroundings ←
    match CommandLine.ofArguments arguments with
    | .ok (.run command) => readSurroundings command start
    | _ => pure start
  match CommandLine.outcome surroundings arguments with
  | .ended result => result.print
  | .serving host => host.conclude.print
