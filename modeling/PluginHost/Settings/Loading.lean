import PluginHost.Files.Tree
import PluginHost.Settings.Diagnostic
import PluginHost.Settings.Environment
import PluginHost.Settings.Extraction

/-!
# Loading settings

Settings are read from layers, each over the one before: the defaults, the settings file of
the system, the one of the user, the nearest one from the working directory upwards, and the
environment.  A given file takes the place of all other files.  Settings that are read are
checked before they are used.
-/

namespace PluginHost

/-- What settings are loaded from. -/
structure Surroundings where
  files : FileView
  environment : Environment

/-- The name of settings files. -/
def settingsFileName : String :=
  "toolgate.toml"

namespace Surroundings

/-- The settings file of the system. -/
def systemFile : String :=
  "/etc/toolgate/" ++ settingsFileName

/-- The directory that holds what programs are configured with for the user. -/
def userDirectory? (surroundings : Surroundings) : Option String :=
  match (surroundings.environment.get? "XDG_CONFIG_HOME").filter Path.isAbsolute with
  | some directory => some directory
  | none =>
    ((surroundings.environment.get? "HOME").filter (· != "")).map (Path.join · ".config")

/-- The settings file of the user. -/
def userFile? (surroundings : Surroundings) : Option String :=
  surroundings.userDirectory?.map (Path.join · ("toolgate/" ++ settingsFileName))

/-- The path under which a file is found: in the working directory, or else in the nearest
directory above it. -/
def findUpwards? (files : FileView) (path : String) : Option String :=
  if Path.isAbsolute path then
    if files.isFile path then some path else none
  else
    ((Path.ancestors files.workingDirectory).map (Path.join · path)).find? files.isFile

end Surroundings

/-- A layer of settings. -/
abbrev SettingsLayer := Except SettingsFault Setting

namespace SettingsLayer

/-- The layer that a TOML text states. -/
def ofText (source : SettingSource) (text : String) : SettingsLayer :=
  match TomlValue.parseDocument text with
  | .ok entries => .ok (Setting.ofToml source (.table entries))
  | .error place => .error (.malformed place)

/-- The layer of a file, empty if there is no such file. -/
def ofFile (files : FileView) (path : String) : SettingsLayer :=
  match Surroundings.findUpwards? files path with
  | none => .ok (.table .builtin [])
  | some found =>
    match files.readText found with
    | .ok text => ofText (.file found) text
    | .error _ => .error (.notText (.file found))

/-- Merges layers onto a first one, or collects what is wrong with them, last layer first. -/
def merge (first : Setting) (layers : List SettingsLayer) : Except (List SettingsFault) Setting :=
  layers.foldl
    (fun merged layer =>
      match merged, layer with
      | .ok earlier, .ok later => .ok (later.laidOver earlier)
      | .ok _, .error fault => .error [fault]
      | .error faults, .ok _ => .error faults
      | .error faults, .error fault => .error (fault :: faults))
    (.ok first)

end SettingsLayer

namespace HostSettings

/-- The settings that layers over the defaults state. -/
def ofLayers (layers : List SettingsLayer) : Except (List SettingsFault) HostSettings :=
  match SettingsLayer.merge defaultTree layers with
  | .error faults => .error faults
  | .ok tree => (ofTree tree).mapError fun fault => [.refused fault]

/-- Settings that keep the rules, or what is told about them. -/
def checked (directory : String) (texts : List SettingsText)
    (read : Except (List SettingsFault) HostSettings) :
    Except (List SettingsDiagnostic) HostSettings :=
  match read with
  | .error faults => .error (faults.map (·.diagnostic directory texts))
  | .ok settings =>
    match settings.violations with
    | [] => .ok settings
    | broken => .error (broken.map .violation)

/-- The settings that a text states. -/
def ofText (text : String) : Except (List SettingsDiagnostic) HostSettings :=
  checked "/" [⟨"<inline>", text⟩] (ofLayers [.ofText .inline text])

/-- A text of a file under a name, if it can be read. -/
def textOfFile (files : FileView) (name path : String) : List SettingsText :=
  match files.readText path with
  | .ok content => [⟨name, content⟩]
  | .error _ => []

/-- The settings that a given file and the environment state. -/
def ofFile (surroundings : Surroundings) (path : String) :
    Except (List SettingsDiagnostic) HostSettings :=
  let files := surroundings.files
  let read :=
    if files.isFile path then
      ofLayers [.ofFile files path, .ok surroundings.environment.tree]
    else
      .error [.missingFile path]
  checked files.workingDirectory (textOfFile files (files.canonical path) path) read

/-- The layers that the surroundings state. -/
def layers (surroundings : Surroundings) : List SettingsLayer :=
  let files := surroundings.files
  [.ofFile files Surroundings.systemFile] ++
    (surroundings.userFile?.toList.map (.ofFile files)) ++
    [.ofFile files settingsFileName, .ok surroundings.environment.tree]

/-- The texts in which unknown keys are looked up. -/
def texts (surroundings : Surroundings) : List SettingsText :=
  let files := surroundings.files
  let nearest := Path.join files.workingDirectory settingsFileName
  textOfFile files nearest settingsFileName ++
    surroundings.userFile?.toList.flatMap (fun path => textOfFile files path path) ++
    textOfFile files Surroundings.systemFile Surroundings.systemFile

/-- The settings that the surroundings state. -/
def ofSurroundings (surroundings : Surroundings) :
    Except (List SettingsDiagnostic) HostSettings :=
  checked surroundings.files.workingDirectory (texts surroundings)
    (ofLayers (layers surroundings))

end HostSettings

end PluginHost
