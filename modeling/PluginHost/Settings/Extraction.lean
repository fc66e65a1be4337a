import PluginHost.Decimal.Integer
import PluginHost.Settings.Basic
import PluginHost.Settings.Fault

/-!
# Settings from their tree

A section is read from a table, key by key in the order of keys, or from a list, whose items
stand for the first fields of the section.  Fields that are not stated keep their defaults,
unknown keys are refused, and the first fault ends the reading.
-/

namespace PluginHost

open Text

/-! ### Single settings -/

namespace Setting

/-- The text that a setting states, under the name that faults give to texts of its kind. -/
def readText (expected : String) (setting : Setting) : Except SettingFault String :=
  match setting with
  | .scalar _ (.text value) => .ok value
  | .scalar _ (.character value) => .ok (String.singleton value)
  | setting => setting.refuseType expected

/-- The text that a setting states, if it states one. -/
def readOptionalText (setting : Setting) : Except SettingFault (Option String) :=
  match setting with
  | .scalar _ .absent => .ok none
  | setting => (setting.readText "a string").map some

/-- The natural number of a range that a setting states. -/
def readNumber (range : IntegerRange) (expected : String) (setting : Setting) :
    Except SettingFault Nat :=
  let checked (value : Int) : Except SettingFault Nat :=
    if range.contains value then .ok value.toNat
    else setting.refuse (.outOfRange setting.description expected)
  match setting with
  | .scalar _ (.signed value) => checked value
  | .scalar _ (.unsigned value) => checked value
  | setting => setting.refuseType expected

/-- The truth value that a setting states. -/
def readFlag (setting : Setting) : Except SettingFault Bool :=
  match setting with
  | .scalar _ (.boolean value) => .ok value
  | setting => setting.refuseType "a boolean"

/-- The text of a setting that is nothing else. -/
def asText? : Setting → Option String
  | .scalar _ (.text value) => some value
  | _ => none

/-- The capabilities that a setting states, as a text with commas or as a list of texts. -/
def readCapabilities (setting : Setting) : Except SettingFault (List String) :=
  match setting with
  | .scalar _ (.text value) => .ok (CapabilityPolicy.cleaned (split ',' value))
  | .list _ items =>
    match items.mapM asText? with
    | some names => .ok (CapabilityPolicy.cleaned names)
    | none => setting.refuse .neitherTextNorList
  | setting => setting.refuse .neitherTextNorList

/-- The JSON values under keys that a setting states. -/
def readFields (setting : Setting) : Except SettingFault JsonFields :=
  match setting with
  | .table _ entries => .ok (entriesToJson entries)
  | setting => setting.refuseType "a map"

end Setting

/-! ### Sections -/

/-- A field of a section: its key, and how what is stated under the key changes the section. -/
structure SettingField (α : Type) where
  key : String
  set : Setting → α → Except SettingFault α

/-- The fields of a section in order, and what faults call it. -/
structure SectionForm (α : Type) where
  name : String
  fields : List (SettingField α)

/-- A field from a reading and an update. -/
def SettingField.of {α β : Type} (key : String) (read : Setting → Except SettingFault β)
    (update : β → α → α) : SettingField α :=
  ⟨key, fun setting stated => (read setting).map fun value => update value stated⟩

namespace SectionForm

variable {α : Type}

/-- The keys of a section in order. -/
def keys (form : SectionForm α) : List String :=
  form.fields.map SettingField.key

/-- Reads one entry of a table. -/
def readEntry (form : SectionForm α) (stated : α) (entry : String × Setting) :
    Except SettingFault α :=
  let result :=
    match form.fields.find? fun field : SettingField α => field.key == entry.1 with
    | some field => field.set entry.2 stated
    | none => entry.2.refuse (.unknownKey entry.1 form.keys)
  result.mapError (SettingFault.under entry.1)

/-- Reads the items of a list into the fields, from a position on. -/
def readItems : List (SettingField α) → Nat → List Setting → α → Except SettingFault α
  | field :: fields, index, item :: items, stated =>
    match field.set item stated with
    | .ok stated => readItems fields (index + 1) items stated
    | .error fault => .error (fault.under (toString index))
  | _, _, _, stated => .ok stated

/-- Reads a section over what is already stated. -/
def read (form : SectionForm α) (stated : α) (setting : Setting) : Except SettingFault α :=
  match setting with
  | .table _ entries => entries.foldlM form.readEntry stated
  | .list _ items => readItems form.fields 0 items stated
  | setting => setting.refuseType form.name

end SectionForm

/-- The section of the HTTP server. -/
def ServerSettings.form : SectionForm ServerSettings :=
  ⟨"struct ServerConfig",
    [.of "host" (Setting.readText "a string") fun value s => { s with host := value },
     .of "port" (Setting.readNumber .unsigned16 "u16") fun value s => { s with listenPort := value },
     .of "max_body_bytes" (Setting.readNumber .unsigned64 "usize")
      fun value s => { s with maxBodyBytes := value },
     .of "body_read_timeout_ms" (Setting.readNumber .unsigned64 "u64")
      fun value s => { s with bodyReadTimeout := value },
     .of "tool_timeout_ms" (Setting.readNumber .unsigned64 "u64")
      fun value s => { s with toolTimeout := value }]⟩

/-- The section of the plugins. -/
def PluginSettings.form : SectionForm PluginSettings :=
  ⟨"struct PluginsConfig",
    [.of "dir" (Setting.readText "path string") fun value s => { s with directory := value },
     .of "allowed_capabilities" Setting.readCapabilities
      fun value s => { s with allowedCapabilities := value },
     .of "config" Setting.readFields fun value s => { s with config := value }]⟩

/-- The section of the chat provider. -/
def ProviderSettings.form : SectionForm ProviderSettings :=
  ⟨"struct UpstreamConfig",
    [.of "base_url" Setting.readOptionalText fun value s => { s with baseUrl := value },
     .of "api_key" Setting.readOptionalText fun value s => { s with apiKey := value },
     .of "timeout_secs" (Setting.readNumber .unsigned64 "u64")
      fun value s => { s with timeout := value },
     .of "max_tool_rounds" (Setting.readNumber .unsigned64 "usize")
      fun value s => { s with maxToolRounds := value }]⟩

/-- The section of the log. -/
def LoggingSettings.form : SectionForm LoggingSettings :=
  ⟨"struct LoggingConfig",
    [.of "debug" Setting.readFlag fun value s => { s with debug := value },
     .of "level" (Setting.readText "a string") fun value s => { s with level := value }]⟩

/-- The sections of the settings. -/
def HostSettings.form : SectionForm HostSettings :=
  ⟨"struct ToolgateConfig",
    [.of "server" (ServerSettings.form.read {}) fun value s => { s with server := value },
     .of "plugins" (PluginSettings.form.read {}) fun value s => { s with plugins := value },
     .of "upstream" (ProviderSettings.form.read {}) fun value s => { s with provider := value },
     .of "logging" (LoggingSettings.form.read {}) fun value s => { s with logging := value }]⟩

/-- The settings that a tree states. -/
def HostSettings.ofTree (tree : Setting) : Except SettingFault HostSettings :=
  form.read {} tree

end PluginHost
