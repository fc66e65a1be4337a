import PluginHost.Archive.Tar
import PluginHost.Files.Tree
import PluginHost.Manifest

/-!
# Plugin bundles

A bundle is a directory or a compressed archive with a manifest at its root.  A manifest is
read up to a greatest size; of an archive, the first entry that is the manifest counts.
-/

namespace PluginHost

open Text

/-- How a bundle is packed. -/
inductive BundleKind where
  | directory
  | archive
deriving DecidableEq

/-- The name of a kind. -/
def BundleKind.name : BundleKind → String
  | directory => "directory"
  | archive => "archive"

/-- A plugin bundle. -/
structure PluginBundle where
  path : String
  kind : BundleKind
deriving DecidableEq

/-- The name of manifest files. -/
def manifestFileName : String :=
  "plugin.json"

/-- The greatest size of a manifest in bytes. -/
def maxManifestSize : Nat :=
  1048576

/-- Why the manifest of a bundle cannot be read. -/
inductive BundleProblem where
  /-- The directory has no manifest that can be opened. -/
  | noFile (path : String) (problem : FileProblem)
  /-- The manifest cannot be read as a text. -/
  | unreadable (path reason : String)
  | tooLong (path : String)
  /-- The archive cannot be opened. -/
  | unopenable (path : String) (problem : FileProblem)
  /-- The archive is broken before its manifest. -/
  | brokenArchive (path : String) (fault : ArchiveFault)
  | notInArchive (path : String)

/-- The wording of a problem. -/
def BundleProblem.message : BundleProblem → String
  | noFile path problem => s!"no {manifestFileName} in {path}: {problem.message}"
  | unreadable path reason => s!"cannot read manifest in {path}: {reason}"
  | tooLong path => s!"manifest in {path} exceeds {maxManifestSize} bytes"
  | unopenable path problem => s!"cannot open {path}: {problem.message}"
  | brokenArchive path fault => s!"cannot open {path}: {fault.message}"
  | notInArchive path => s!"no {manifestFileName} at the root of {path}"

/-- The error of a problem. -/
def BundleProblem.error (problem : BundleProblem) : HostError :=
  .manifest problem.message

/-- Reads a stream as the text of a manifest of a path.  No more is read than one byte above
the greatest size. -/
def readManifestStream (path : String) (stream : ByteStream) : Except BundleProblem String :=
  let taken := stream.bytes.take (maxManifestSize + 1)
  match if taken.length ≤ maxManifestSize then stream.fault else none with
  | some fault => .error (.unreadable path fault.message)
  | none =>
    match decodeText? taken with
    | none => .error (.unreadable path FileProblem.notText.message)
    | some text => if maxManifestSize < taken.length then .error (.tooLong path) else .ok text

/-- The pieces of a path between its slashes. -/
def pathPieces : List UInt8 → List (List UInt8)
  | [] => [[]]
  | byte :: rest =>
    if byte == 0x2f then [] :: pathPieces rest
    else
      match pathPieces rest with
      | [] => [[byte]]
      | piece :: pieces => (byte :: piece) :: pieces

/-- Whether the path of an entry is that of a manifest at the root. -/
def isRootManifest (path : List UInt8) : Bool :=
  path.head? != some 0x2f &&
    (pathPieces path).filter (fun piece => piece != [] && piece != [0x2e]) ==
      [encode manifestFileName]

/-- The text of the manifest in an archive. -/
def ArchiveListing.manifestText (listing : ArchiveListing) (path : String) :
    Except BundleProblem String :=
  match listing.entries.find? fun entry => isRootManifest entry.path with
  | some entry => readManifestStream path entry.content
  | none =>
    match listing.fault with
    | some fault => .error (.brokenArchive path fault)
    | none => .error (.notInArchive path)

/-- Whether a path has the name of an archive. -/
def isArchiveName (path : String) : Bool :=
  let name := (((Path.fileName? path).getD "").toList.map Char.toLower).reverse
  [".tar.gz", ".tgz"].any fun ending => (stripLeading? ending.toList.reverse name).isSome

namespace PluginBundle

/-- The bundle at a path, if there can be one. -/
def ofPath? (files : FileView) (path : String) : Option PluginBundle :=
  if files.isDirectory path then some ⟨path, .directory⟩
  else if files.isFile path && isArchiveName path then some ⟨path, .archive⟩
  else none

/-- The directory that belongs to the plugin. -/
def dataDirectory? (bundle : PluginBundle) : Option String :=
  match bundle.kind with
  | .directory => some bundle.path
  | .archive => none

/-- The text of the manifest in a directory. -/
def directoryText (files : FileView) (directory : String) : Except BundleProblem String :=
  let path := Path.join directory manifestFileName
  match files.readBytes path with
  | .ok bytes => readManifestStream path ⟨bytes, none⟩
  | .error .isADirectory => .error (.unreadable path FileProblem.isADirectory.message)
  | .error problem => .error (.noFile directory problem)

/-- The text of the manifest in an archive file. -/
def archiveText (files : FileView) (path : String) : Except BundleProblem String :=
  match files.readBytes path with
  | .ok bytes => (Tar.list (Gzip.read bytes)).manifestText path
  | .error problem => .error (.unopenable path problem)

/-- The text of the manifest of a bundle. -/
def manifestText (files : FileView) (bundle : PluginBundle) : Except HostError String :=
  (match bundle.kind with
    | .directory => directoryText files bundle.path
    | .archive => archiveText files bundle.path).mapError BundleProblem.error

/-- The manifest of a bundle. -/
def manifest (files : FileView) (bundle : PluginBundle) : Except HostError Manifest :=
  match bundle.manifestText files with
  | .error error => .error error
  | .ok text => (Manifest.parse text).mapError ManifestProblem.error

/-- The bundles in a directory, in the order of their names. -/
def discover (files : FileView) (directory : String) :
    Except FileProblem (List PluginBundle) :=
  (files.names directory).map fun names =>
    (names.map (Path.join directory)).filterMap (ofPath? files)

end PluginBundle

end PluginHost
