import PluginHost.Files.Path
import PluginHost.Settings.Fault
import PluginHost.Settings.Suggestion
import PluginHost.Settings.Validation
import PluginHost.Toml.Document

/-!
# What is told about settings that are refused

A diagnostic has a code, a wording and perhaps a help.  An unknown key is looked up in the
texts that the settings came from, so that its place can be shown.
-/

namespace PluginHost

open Text

/-- Why settings could not be read. -/
inductive SettingsFault where
  | missingFile (path : String)
  | malformed (place : TextPosition)
  | notText (source : SettingSource)
  | refused (fault : SettingFault)

/-- A text that settings came from. -/
structure SettingsText where
  name : String
  content : String

/-- The place of a key in a text, in bytes. -/
structure KeyPlace where
  source : SettingsText
  offset : Nat
  size : Nat

/-- What is told about settings that are refused. -/
inductive SettingsDiagnostic where
  | unknownKey (key : String) (suggestion : Option String) (validKeys : List String)
      (place : Option KeyPlace)
  | wrongType (key detail expected : String)
  | violation (broken : SettingViolation)
  | other (text : String)

namespace SettingsDiagnostic

/-- The wording of a diagnostic. -/
def message : SettingsDiagnostic → String
  | unknownKey key _ _ _ => s!"unknown configuration key `{key}`"
  | wrongType key detail _ => s!"invalid type for key `{key}`: {detail}"
  | violation broken => s!"validation error: {broken.message}"
  | other text => s!"configuration error: {text}"

/-- The code of a diagnostic's kind. -/
def code : SettingsDiagnostic → String
  | unknownKey _ _ _ _ => "toolgate::config::unknown_key"
  | wrongType _ _ _ => "toolgate::config::invalid_type"
  | violation _ => "toolgate::config::validation"
  | other _ => "toolgate::config::other"

/-- What helps with a diagnostic. -/
def help? : SettingsDiagnostic → Option String
  | unknownKey _ (some suggestion) validKeys _ =>
    some (s!"did you mean `{suggestion}`? Valid keys: " ++ ", ".intercalate validKeys)
  | unknownKey _ none validKeys _ => some ("valid keys: " ++ ", ".intercalate validKeys)
  | wrongType _ _ expected => some s!"expected {expected}"
  | violation _ => none
  | other _ => none

end SettingsDiagnostic

/-- Where a setting was stated, as seen from a directory. -/
def SettingSource.location (directory : String) : SettingSource → String
  | builtin => ""
  | inline => " in TOML source string"
  | file path => " in " ++ Path.seenFrom directory path ++ " TOML file"
  | environment => " in `TOOLGATE_` environment variable(s)"

/-- How a source calls the setting at a path. -/
def SettingSource.settingName (path : List String) : SettingSource → String
  | environment =>
    ".".intercalate (path.map fun key => String.ofList (key.toList.map Char.toUpper))
  | _ => ".".intercalate ("default" :: path)

/-- The wording of a refused setting, as seen from a directory. -/
def SettingFault.message (directory : String) (fault : SettingFault) : String :=
  let name :=
    if fault.path.isEmpty then ""
    else " for key " ++ quoted (fault.source.settingName fault.path)
  fault.problem.message ++ name ++ fault.source.location directory

/-- The text that a source is, if it is one of the given texts.  What comes from no file is
looked up in the text that is the only one. -/
def SettingSource.text? (texts : List SettingsText) : SettingSource → Option SettingsText
  | file path => texts.find? fun text => text.name == path
  | _ =>
    match texts with
    | [text] => some text
    | _ => none

/-- The place of an unknown key in the texts that settings came from. -/
def SettingFault.keyPlace? (texts : List SettingsText) (fault : SettingFault) (key : String) :
    Option KeyPlace :=
  match fault.source.text? texts with
  | none => none
  | some text =>
    (PluginHost.keyPlace? text.content fault.path key).map fun offset =>
      ⟨text, offset, key.utf8ByteSize⟩

/-- What is told about a refused setting. -/
def SettingFault.diagnostic (directory : String) (texts : List SettingsText)
    (fault : SettingFault) : SettingsDiagnostic :=
  match fault.problem with
  | .unknownKey key validKeys =>
    .unknownKey key (suggestKey? key validKeys) validKeys (fault.keyPlace? texts key)
  | .wrongType found expected =>
    .wrongType (".".intercalate fault.path) s!"found {found}, expected {expected}" expected
  | _ => .other (fault.message directory)

/-- What is told about settings that could not be read. -/
def SettingsFault.diagnostic (directory : String) (texts : List SettingsText) :
    SettingsFault → SettingsDiagnostic
  | missingFile path => .other s!"configuration file {path} does not exist"
  | malformed place =>
    .other s!"TOML parse error at line {place.line}, column {place.column}"
  | notText source =>
    .other ("stream did not contain valid UTF-8\n" ++ source.location directory)
  | refused fault => fault.diagnostic directory texts

end PluginHost
