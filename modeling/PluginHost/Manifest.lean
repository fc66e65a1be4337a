import PluginHost.Error
import PluginHost.Json.Record
import PluginHost.Text.Blank
import PluginHost.Version.Parser

/-!
# Plugin manifests

A manifest tells who a plugin is, which API it was made for, which implementation constructs
it, what it wants to be allowed and which host versions it accepts.  Requirements are read
leniently: whatever is not an object with text fields asks for nothing.
-/

namespace PluginHost

open Text

/-- The version constraints that a plugin places on its host. -/
structure Requirements where
  host : Option String
  api : Option String
deriving DecidableEq

/-- The identity and the wishes of a plugin. -/
structure Manifest where
  /-- The id, unique among the loaded plugins. -/
  id : String
  /-- The version of the plugin itself. -/
  version : String
  /-- The API version the plugin was made for. -/
  apiVersion : String
  /-- The key of the constructor. -/
  implementation : String
  /-- The requested capabilities in order. -/
  capabilities : List String
  requires : Requirements
  name : Option String
  description : Option String
deriving DecidableEq

/-- Why a text is no manifest. -/
inductive ManifestProblem where
  /-- The text is not the JSON of a manifest. -/
  | malformed (reason : String)
  /-- A field that identifies the plugin is blank. -/
  | blank (field : String)
  /-- The id has a character outside letters, digits, `.`, `_` and `-`. -/
  | badId (id : String)
  /-- The plugin's version is no semantic version. -/
  | badVersion (version : String) (problem : VersionProblem)
deriving DecidableEq

/-- The wording of a problem. -/
def ManifestProblem.message : ManifestProblem → String
  | malformed reason => s!"invalid plugin.json: {reason}"
  | blank field => s!"{field} must not be empty"
  | badId id => s!"id '{id}' may only contain letters, digits, '.', '_' and '-'"
  | badVersion version problem => s!"version '{version}' is not semver: {problem.message}"

/-- The error of a problem. -/
def ManifestProblem.error (problem : ManifestProblem) : HostError :=
  .manifest problem.message

namespace Manifest

/-- The fields of a manifest's JSON. -/
def shape : RecordShape where
  title := "struct PluginManifest"
  fields :=
    [⟨"id", .text, true⟩, ⟨"version", .text, true⟩, ⟨"apiVersion", .text, true⟩,
     ⟨"implementation", .text, true⟩, ⟨"capabilities", .textList, false⟩,
     ⟨"requires", .value, false⟩, ⟨"name", .optionalText, false⟩,
     ⟨"description", .optionalText, false⟩]

/-- Requirements as they are meant: text fields of an object count, all else does not. -/
def requirementsOf (value : Json) : Requirements :=
  { host := (value.get? "host").bind Json.asString?
    api := (value.get? "api").bind Json.asString? }

/-- The manifest of the fields that were read. -/
def ofRecord (values : RecordValues) : Manifest :=
  { id := values.textOf "id"
    version := values.textOf "version"
    apiVersion := values.textOf "apiVersion"
    implementation := values.textOf "implementation"
    capabilities := values.textListOf "capabilities"
    requires := requirementsOf (values.valueOf "requires")
    name := values.optionalTextOf "name"
    description := values.optionalTextOf "description" }

/-- Whether a character may stand in an id. -/
def isIdChar (c : Char) : Bool :=
  c.isAlphanum || c == '.' || c == '_' || c == '-'

/-- The fields that may not be blank, in the order in which they are checked. -/
def identifyingFields (manifest : Manifest) : List (String × String) :=
  [("id", manifest.id), ("version", manifest.version), ("apiVersion", manifest.apiVersion),
   ("implementation", manifest.implementation)]

/-- Checks what the shape of the JSON leaves open. -/
def check (manifest : Manifest) : Except ManifestProblem Manifest :=
  match manifest.identifyingFields.find? fun field => isBlankText field.2 with
  | some (field, _) => .error (.blank field)
  | none =>
    if !manifest.id.toList.all isIdChar then
      .error (.badId manifest.id)
    else
      match Version.parseList (trimList manifest.version.toList) with
      | .error problem => .error (.badVersion manifest.version problem)
      | .ok _ => .ok manifest

/-- The manifest that a text spells. -/
def parse (text : String) : Except ManifestProblem Manifest :=
  let stream := symbolsOf text
  match shape.read stream with
  | .error fault => .error (.malformed (fault.message stream))
  | .ok values => check (ofRecord values)

/-- The manifest that a value holds, without the checks of `parse`. -/
def ofJson (value : Json) : Except ShapeProblem Manifest :=
  (value.toRecord shape).map ofRecord

/-- The fields that are present. -/
def presentFields (fields : List (String × Option String)) : List (String × Json) :=
  fields.filterMap fun field => field.2.map fun value => (field.1, Json.string value)

/-- The JSON of a manifest; absent options are left out. -/
def toJson (manifest : Manifest) : Json :=
  .ofFields <|
    [("id", .string manifest.id), ("version", .string manifest.version),
     ("apiVersion", .string manifest.apiVersion),
     ("implementation", .string manifest.implementation),
     ("capabilities", .array (manifest.capabilities.map .string)),
     ("requires",
       .ofFields (presentFields [("host", manifest.requires.host),
         ("api", manifest.requires.api)]))] ++
      presentFields [("name", manifest.name), ("description", manifest.description)]

end Manifest

end PluginHost
