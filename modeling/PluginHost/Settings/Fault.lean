import PluginHost.Settings.Tree
import PluginHost.Text.Quoted

/-!
# Refused settings

A setting is refused at a path of keys, with the source that stated it.
-/

namespace PluginHost

open Text

/-- Why a setting is refused. -/
inductive SettingProblem where
  /-- The section has no such key. -/
  | unknownKey (key : String) (validKeys : List String)
  | wrongType (found expected : String)
  | outOfRange (found expected : String)
  /-- Capabilities are given as something other than a text or a list of texts. -/
  | neitherTextNorList
deriving DecidableEq

/-- A refused setting. -/
structure SettingFault where
  path : List String
  source : SettingSource
  problem : SettingProblem
deriving DecidableEq

/-- The wording of a problem. -/
def SettingProblem.message : SettingProblem → String
  | unknownKey key validKeys =>
    let names := ", ".intercalate (validKeys.map fun name => "`" ++ name ++ "`")
    s!"unknown field: found `{key}`, expected one of {names}"
  | wrongType found expected => s!"invalid type: found {found}, expected {expected}"
  | outOfRange found expected => s!"invalid value {found}, expected {expected}"
  | neitherTextNorList => "data did not match any variant of untagged enum Raw"

/-- The fault seen from one key further out. -/
def SettingFault.under (key : String) (fault : SettingFault) : SettingFault :=
  { fault with path := key :: fault.path }

namespace Setting

/-- What a setting is, in the wording of faults. -/
def description : Setting → String
  | scalar _ value =>
    match value with
    | .absent => "Option value"
    | .boolean value => s!"bool {value}"
    | .signed value => s!"signed int `{value}`"
    | .unsigned value => s!"unsigned int `{value}`"
    | .float value => s!"float `{value.text}`"
    | .text value => "string " ++ quoted value
    | .character value => "string " ++ quoted (String.singleton value)
  | list _ _ => "sequence"
  | table _ _ => "map"

/-- Refuses a setting. -/
def refuse {α : Type} (setting : Setting) (problem : SettingProblem) : Except SettingFault α :=
  .error ⟨[], setting.source, problem⟩

/-- Refuses a setting that is not of the expected kind. -/
def refuseType {α : Type} (setting : Setting) (expected : String) : Except SettingFault α :=
  setting.refuse (.wrongType setting.description expected)

end Setting

end PluginHost
