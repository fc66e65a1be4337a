import PluginHost.Json.Basic
import PluginHost.Toml.Basic

/-!
# Trees of settings

Settings come in layers.  Each layer is a tree whose parts know where they were stated; layers
are merged table by table, and what a later layer states replaces what an earlier one did.
-/

namespace PluginHost

/-- Where a setting was stated. -/
inductive SettingSource where
  /-- In the host itself, as a default. -/
  | builtin
  /-- In a text given directly. -/
  | inline
  /-- In a file. -/
  | file (path : String)
  /-- In an environment variable. -/
  | environment
deriving DecidableEq

/-- A single setting. -/
inductive SettingScalar where
  | absent
  | boolean (value : Bool)
  | signed (value : Int)
  | unsigned (value : Nat)
  | float (value : ExtendedDouble)
  | text (value : String)
  | character (value : Char)

/-- A setting, a list of settings or a table of settings. -/
inductive Setting where
  | scalar (source : SettingSource) (value : SettingScalar)
  | list (source : SettingSource) (items : List Setting)
  | table (source : SettingSource) (entries : List (String × Setting))

/-- The entries of a table of settings, listed by key. -/
abbrev SettingEntries := KeyedList Setting

namespace Setting

open KeyedList

/-- Where a setting was stated. -/
def source : Setting → SettingSource
  | scalar source _ => source
  | list source _ => source
  | table source _ => source

mutual

/-- A setting of a later layer over one of an earlier layer: tables are merged, and anything
else replaces what was there. -/
def laidOver : Setting → Setting → Setting
  | .table source entries, .table _ earlier => .table source (entriesOver entries earlier)
  | later, _ => later

/-- The entries of a later layer over those of an earlier one. -/
def entriesOver : List (String × Setting) → SettingEntries → SettingEntries
  | [], earlier => earlier
  | (key, later) :: rest, earlier =>
    let merged :=
      match get? key earlier with
      | some found => laidOver later found
      | none => later
    entriesOver rest (insert key merged earlier)

end

/-- The key under which a date or a time is kept, in its written form. -/
def datetimeKey : String :=
  "$__toml_private_datetime"

mutual

/-- The setting that a TOML value states. -/
def ofToml (source : SettingSource) : TomlValue → Setting
  | .text value => scalar source (.text value)
  | .integer value => scalar source (.signed value)
  | .float value => scalar source (.float value)
  | .boolean value => scalar source (.boolean value)
  | .datetime written => table source [(datetimeKey, scalar source (.text written))]
  | .array items => list source (itemsOfToml source items)
  | .table entries => table source (entriesOfToml source entries)

/-- The settings that TOML values state. -/
def itemsOfToml (source : SettingSource) : List TomlValue → List Setting
  | [] => []
  | item :: rest => ofToml source item :: itemsOfToml source rest

/-- The settings that the entries of a TOML table state. -/
def entriesOfToml (source : SettingSource) : List (String × TomlValue) → List (String × Setting)
  | [] => []
  | (key, value) :: rest => (key, ofToml source value) :: entriesOfToml source rest

end

mutual

/-- The JSON value of a setting; a float that is no finite number is null. -/
def toJson : Setting → Json
  | scalar _ value =>
    match value with
    | .absent => .null
    | .boolean value => .bool value
    | .signed value => .ofInt value
    | .unsigned value => .ofNat value
    | .float (.finite value) => .number (.double value)
    | .float _ => .null
    | .text value => .string value
    | .character value => .string (String.singleton value)
  | list _ items => .array (itemsToJson items)
  | table _ entries => .object (entriesToJson entries)

/-- The JSON values of settings. -/
def itemsToJson : List Setting → List Json
  | [] => []
  | item :: rest => toJson item :: itemsToJson rest

/-- The JSON values of the entries of a table. -/
def entriesToJson : List (String × Setting) → List (String × Json)
  | [] => []
  | (key, value) :: rest => (key, toJson value) :: entriesToJson rest

end

end Setting

end PluginHost
