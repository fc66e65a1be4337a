import PluginHost.Proofs.Json.Record
import PluginHost.Proofs.Settings.Layering
import PluginHost.Settings.Extraction

/-!
# What is read from a tree of settings

A section that is read from a table has for each of its fields what the table states under the
field's key, and keeps the default where the table states nothing.  Reading goes key by key and
each field changes nothing but itself, so that the other keys of the table do not matter.
-/

namespace PluginHost

open KeyedList

/-! ### Fields -/

namespace SettingField

variable {α β : Type}

/-- A field that changes nothing of a part of its section. -/
def Keeps (field : SettingField α) (get : α → β) : Prop :=
  ∀ {setting stated after}, field.set setting stated = .ok after → get after = get stated

/-- A field that puts what it reads into a part of its section. -/
def States (field : SettingField α) (read : Setting → Except SettingFault β) (get : α → β) :
    Prop :=
  ∀ {setting stated after}, field.set setting stated = .ok after → read setting = .ok (get after)

@[simp]
theorem of_key {γ : Type} (key : String) (read : Setting → Except SettingFault γ)
    (update : γ → α → α) : (SettingField.of key read update).key = key :=
  rfl

theorem keeps_of {γ : Type} (key : String) (read : Setting → Except SettingFault γ)
    {update : γ → α → α} {get : α → β}
    (apart : ∀ value stated, get (update value stated) = get stated) :
    (SettingField.of key read update).Keeps get := by
  intro setting stated after sets
  obtain ⟨value, -, rfl⟩ := exists_of_map_eq_ok sets
  exact apart value stated

theorem states_of (key : String) (read : Setting → Except SettingFault β)
    {update : β → α → α} {get : α → β} (own : ∀ value stated, get (update value stated) = value) :
    (SettingField.of key read update).States read get := by
  intro setting stated after sets
  obtain ⟨value, reads, rfl⟩ := exists_of_map_eq_ok sets
  rw [reads, own]

end SettingField

/-! ### Sections -/

/-- A part of a section that one field states: the key of the field, how the field is read, and
where what is read is kept. -/
structure SectionLeaf {α : Type} (form : SectionForm α) (β : Type) where
  key : String
  read : Setting → Except SettingFault β
  get : α → β
  states : ∀ field ∈ form.fields, field.key = key → field.States read get := by
    simp [SettingField.states_of, ServerSettings.form, PluginSettings.form, ProviderSettings.form,
      LoggingSettings.form, HostSettings.form]
  keeps : ∀ field ∈ form.fields, field.key ≠ key → field.Keeps get := by
    simp [SettingField.keeps_of, ServerSettings.form, PluginSettings.form, ProviderSettings.form,
      LoggingSettings.form, HostSettings.form]

namespace SectionLeaf

variable {α β : Type} {form : SectionForm α}

theorem exists_field_of_readEntry {stated after : α} {entry : String × Setting}
    (reads : form.readEntry stated entry = .ok after) :
    ∃ field ∈ form.fields, field.key = entry.1 ∧ field.set entry.2 stated = .ok after := by
  rw [SectionForm.readEntry] at reads
  cases found : form.fields.find? fun field : SettingField α => field.key == entry.1 with
  | none => simp [found, Setting.refuse, Except.mapError] at reads
  | some field =>
      refine ⟨field, List.mem_of_find?_eq_some found, ?_, ?_⟩
      · simpa using List.find?_some found
      · cases sets : field.set entry.2 stated with
        | error fault => simp [found, sets, Except.mapError] at reads
        | ok next => simpa [found, sets, Except.mapError] using reads

variable (leaf : SectionLeaf form β) {stated after : α} {entries : SettingEntries}

/-- What the table says nothing about stays as it was. -/
theorem get_of_absent (absent : get? leaf.key entries = none)
    (reads : entries.foldlM form.readEntry stated = .ok after) :
    leaf.get after = leaf.get stated := by
  induction entries generalizing stated with
  | nil =>
      cases reads
      rfl
  | cons entry entries ih =>
      rw [List.foldlM_cons] at reads
      cases first : form.readEntry stated entry with
      | error fault =>
          rw [first] at reads
          cases reads
      | ok next =>
          rw [first] at reads
          obtain ⟨field, member, key_eq, sets⟩ := exists_field_of_readEntry first
          rw [get?_cons] at absent
          split at absent
          · cases absent
          · next apart =>
              rw [ih absent reads]
              exact leaf.keeps field member (by rwa [key_eq]) sets

/-- What the table states under the key is what is read. -/
theorem read_of_stated (sorted : Sorted entries) {setting : Setting}
    (found : get? leaf.key entries = some setting)
    (reads : entries.foldlM form.readEntry stated = .ok after) :
    leaf.read setting = .ok (leaf.get after) := by
  induction entries generalizing stated with
  | nil => cases found
  | cons entry entries ih =>
      rw [List.foldlM_cons] at reads
      obtain ⟨key, value⟩ := entry
      obtain ⟨apart, distinct⟩ := List.nodup_cons.mp sorted.nodup_keys
      cases first : form.readEntry stated (key, value) with
      | error fault =>
          rw [first] at reads
          cases reads
      | ok next =>
          rw [first] at reads
          obtain ⟨field, member, key_eq, sets⟩ := exists_field_of_readEntry first
          rw [get?_cons] at found
          split at found
          · next same =>
              obtain rfl := Option.some.inj found
              -- The key comes only once, so that nothing later changes what was read.
              have absent : get? leaf.key entries = none :=
                (get?_eq_none_iff _ _).mpr (same ▸ apart)
              rw [leaf.get_of_absent absent reads]
              exact leaf.states field member (key_eq.trans same) sets
          · exact ih (List.Pairwise.of_cons sorted) found reads

end SectionLeaf

/-! ### The sections of the host -/

/-- The fields of the section of the HTTP server. -/
def ServerSettings.leaves : List (Σ β, SectionLeaf form β) :=
  [⟨_, { key := "host", read := Setting.readText "a string", get := host }⟩,
   ⟨_, { key := "port", read := Setting.readNumber .unsigned16 "u16", get := listenPort }⟩,
   ⟨_, { key := "max_body_bytes", read := Setting.readNumber .unsigned64 "usize"
         get := maxBodyBytes }⟩,
   ⟨_, { key := "body_read_timeout_ms", read := Setting.readNumber .unsigned64 "u64"
         get := bodyReadTimeout }⟩,
   ⟨_, { key := "tool_timeout_ms", read := Setting.readNumber .unsigned64 "u64"
         get := toolTimeout }⟩]

/-- The fields of the section of the plugins, without what each plugin is configured with. -/
def PluginSettings.leaves : List (Σ β, SectionLeaf form β) :=
  [⟨_, { key := "dir", read := Setting.readText "path string", get := directory }⟩,
   ⟨_, { key := "allowed_capabilities", read := Setting.readCapabilities
         get := allowedCapabilities }⟩]

/-- What each plugin is configured with. -/
def PluginSettings.configLeaf : SectionLeaf form JsonFields where
  key := "config"
  read := Setting.readFields
  get := config

/-- The fields of the section of the chat provider. -/
def ProviderSettings.leaves : List (Σ β, SectionLeaf form β) :=
  [⟨_, { key := "base_url", read := Setting.readOptionalText, get := baseUrl }⟩,
   ⟨_, { key := "api_key", read := Setting.readOptionalText, get := apiKey }⟩,
   ⟨_, { key := "timeout_secs", read := Setting.readNumber .unsigned64 "u64", get := timeout }⟩,
   ⟨_, { key := "max_tool_rounds", read := Setting.readNumber .unsigned64 "usize"
         get := maxToolRounds }⟩]

/-- The fields of the section of the log. -/
def LoggingSettings.leaves : List (Σ β, SectionLeaf form β) :=
  [⟨_, { key := "debug", read := Setting.readFlag, get := debug }⟩,
   ⟨_, { key := "level", read := Setting.readText "a string", get := level }⟩]

namespace HostSettings

def serverLeaf : SectionLeaf form ServerSettings where
  key := "server"
  read := ServerSettings.form.read {}
  get := server

def pluginsLeaf : SectionLeaf form PluginSettings where
  key := "plugins"
  read := PluginSettings.form.read {}
  get := plugins

def providerLeaf : SectionLeaf form ProviderSettings where
  key := "upstream"
  read := ProviderSettings.form.read {}
  get := provider

def loggingLeaf : SectionLeaf form LoggingSettings where
  key := "logging"
  read := LoggingSettings.form.read {}
  get := logging

end HostSettings

/-- A single setting of the host: the path at which trees state it, how it is read, and where it
is kept. -/
structure HostLeaf where
  Value : Type
  path : List String
  read : Setting → Except SettingFault Value
  get : HostSettings → Value

/-- A field of a section as a setting of the host. -/
def HostLeaf.under {α : Type} {form : SectionForm α} (outer : SectionLeaf HostSettings.form α)
    (inner : Σ β, SectionLeaf form β) : HostLeaf :=
  ⟨inner.1, [outer.key, inner.2.key], inner.2.read, fun settings => inner.2.get (outer.get settings)⟩

namespace HostSettings

/-- The single settings of the host; what the plugins are configured with is a tree of its own. -/
def leaves : List HostLeaf :=
  ServerSettings.leaves.map (.under serverLeaf) ++ PluginSettings.leaves.map (.under pluginsLeaf) ++
    ProviderSettings.leaves.map (.under providerLeaf) ++ LoggingSettings.leaves.map (.under loggingLeaf)

example : leaves.map HostLeaf.path =
    [["server", "host"], ["server", "port"], ["server", "max_body_bytes"],
     ["server", "body_read_timeout_ms"], ["server", "tool_timeout_ms"], ["plugins", "dir"],
     ["plugins", "allowed_capabilities"], ["upstream", "base_url"], ["upstream", "api_key"],
     ["upstream", "timeout_secs"], ["upstream", "max_tool_rounds"], ["logging", "debug"],
     ["logging", "level"]] :=
  rfl

variable {tree : Setting} {settings : HostSettings}

theorem read_at? {α β : Type} {form : SectionForm α} {first : α}
    (outer : SectionLeaf HostSettings.form α) (reading : outer.read = form.read first)
    (inner : SectionLeaf form β) (ordered : tree.Ordered) (reads : ofTree tree = .ok settings)
    {setting : Setting} (stated : tree.at? [outer.key, inner.key] = some setting) :
    inner.read setting = .ok (inner.get (outer.get settings)) := by
  cases ordered with
  | scalar => cases stated
  | list => cases stated
  | @table source entries sorted inside =>
      obtain ⟨part, found, stated⟩ := Option.bind_eq_some_iff.mp stated
      have partReads := outer.read_of_stated sorted found reads
      rw [reading] at partReads
      cases inside _ (mem_of_get? found) with
      | scalar => cases stated
      | list => cases stated
      | @table source entries sorted inside =>
          obtain ⟨last, found, same⟩ := Option.bind_eq_some_iff.mp stated
          obtain rfl := Option.some.inj same
          exact inner.read_of_stated sorted found partReads

/-- Every single setting is what the tree states at its path. -/
theorem read_of_mem_leaves {leaf : HostLeaf} (member : leaf ∈ leaves) (ordered : tree.Ordered)
    (reads : ofTree tree = .ok settings) {setting : Setting}
    (stated : tree.at? leaf.path = some setting) :
    leaf.read setting = .ok (leaf.get settings) := by
  simp only [leaves, List.mem_append, List.mem_map] at member
  rcases member with ((⟨inner, -, rfl⟩ | ⟨inner, -, rfl⟩) | ⟨inner, -, rfl⟩) | ⟨inner, -, rfl⟩
  · exact read_at? serverLeaf rfl inner.2 ordered reads stated
  · exact read_at? pluginsLeaf rfl inner.2 ordered reads stated
  · exact read_at? providerLeaf rfl inner.2 ordered reads stated
  · exact read_at? loggingLeaf rfl inner.2 ordered reads stated

/-! ### The defaults -/

instance (setting : Setting) : Decidable setting.HasEntries :=
  match setting with
  | .table source entries => .isTrue ⟨source, entries, rfl⟩
  | .scalar _ _ => .isFalse fun ⟨_, _, impossible⟩ => by cases impossible
  | .list _ _ => .isFalse fun ⟨_, _, impossible⟩ => by cases impossible

theorem ofTree_defaultTree : ofTree defaultTree = .ok {} := by
  rfl

/-- The defaults state every single setting. -/
theorem exists_default_of_mem_leaves {leaf : HostLeaf} (member : leaf ∈ leaves) :
    ∃ setting, defaultTree.at? leaf.path = some setting ∧ ¬ setting.HasEntries := by
  have all : ∀ path ∈ leaves.map HostLeaf.path,
      ((defaultTree.at? path).any fun setting => !decide setting.HasEntries) = true := by
    decide +kernel
  have found := all leaf.path (List.mem_map_of_mem member)
  cases stated : defaultTree.at? leaf.path with
  | none => simp [stated] at found
  | some setting => exact ⟨setting, rfl, by simpa [stated] using found⟩

theorem plain_defaultTree_of_mem_leaves {leaf : HostLeaf} (member : leaf ∈ leaves) :
    defaultTree.Plain leaf.path := by
  obtain ⟨setting, stated, single⟩ := exists_default_of_mem_leaves member
  exact Setting.plain_of_stated stated single

theorem plain_defaultTree_config (id : String) (path : List String) :
    Setting.Plain ("plugins" :: "config" :: id :: path) defaultTree := by
  have empty : defaultTree.at? ["plugins", "config"] = some (builtinTable []) := rfl
  exact Setting.plain_of_empty empty id path

theorem at?_defaultTree_config (id : String) (path : List String) :
    defaultTree.at? ("plugins" :: "config" :: id :: path) = none :=
  rfl

end HostSettings

/-! ### What the plugins are configured with -/

/-- The value at a path of keys. -/
def Json.at? : List String → Json → Option Json
  | [], value => some value
  | key :: path, value => (value.get? key).bind (at? path)

theorem Setting.entriesToJson_eq_map (entries : List (String × Setting)) :
    entriesToJson entries = entries.map fun entry => (entry.1, entry.2.toJson) := by
  induction entries with
  | nil => rw [entriesToJson, List.map_nil]
  | cons entry entries ih => rw [entriesToJson, ih, List.map_cons]

theorem Setting.get?_entriesToJson (key : String) (entries : SettingEntries) :
    KeyedList.get? key (entriesToJson entries) = (KeyedList.get? key entries).map toJson := by
  rw [entriesToJson_eq_map]
  induction entries with
  | nil => rfl
  | cons entry entries ih =>
      obtain ⟨found, setting⟩ := entry
      rw [List.map_cons, KeyedList.get?_cons, KeyedList.get?_cons, ih]
      split <;> rfl

/-- A setting has in JSON the same paths. -/
theorem Setting.at?_toJson (path : List String) (setting : Setting) :
    setting.toJson.at? path = (setting.at? path).map toJson := by
  induction path generalizing setting with
  | nil => rfl
  | cons key path ih =>
      cases setting with
      | table source entries =>
          rw [toJson, Json.at?, Setting.at?, Json.get?, get?_entriesToJson, Option.map_bind,
            Option.bind_map]
          exact congrArg _ (funext ih)
      | list source items =>
          rw [toJson]
          rfl
      | scalar source value =>
          have noFields : (scalar source value).toJson.get? key = none := by
            unfold toJson
            split <;> rfl
          rw [Json.at?, noFields]
          rfl

/-- What the plugins are configured with is what the tree states below their section, in JSON. -/
theorem HostSettings.at?_config {tree : Setting} {settings : HostSettings} {id : String}
    {path : List String} (plain : tree.Plain ("plugins" :: "config" :: id :: path))
    (ordered : tree.Ordered) (reads : ofTree tree = .ok settings) :
    (Json.object settings.plugins.config).at? (id :: path) =
      (tree.at? ("plugins" :: "config" :: id :: path)).map Setting.toJson := by
  obtain ⟨source, entries, rfl, inside⟩ := (Setting.plain_cons_iff _ _ _).mp plain
  cases ordered with
  | @table _ _ sorted ordered =>
      cases found : get? "plugins" entries with
      | none =>
          have unset : settings.plugins = {} := pluginsLeaf.get_of_absent found reads
          rw [unset, Setting.at?, found]
          rfl
      | some part =>
          obtain ⟨source, entries, rfl, inside⟩ :=
            (Setting.plain_cons_iff _ _ _).mp (inside part found)
          have partReads := pluginsLeaf.read_of_stated sorted found reads
          rw [Setting.at?, found, Option.bind_some]
          cases ordered _ (mem_of_get? found) with
          | @table _ _ sorted ordered =>
              cases found : get? "config" entries with
              | none =>
                  have unset : settings.plugins.config = [] :=
                    PluginSettings.configLeaf.get_of_absent found partReads
                  rw [unset, Setting.at?, found]
                  rfl
              | some config =>
                  obtain ⟨source, entries, rfl, -⟩ :=
                    (Setting.plain_cons_iff _ _ _).mp (inside config found)
                  have stated := PluginSettings.configLeaf.read_of_stated sorted found partReads
                  have config_eq : Setting.entriesToJson entries = settings.plugins.config :=
                    Except.ok.inj stated
                  rw [Setting.at?, found, Option.bind_some, ← Setting.at?_toJson, Setting.toJson,
                    config_eq]

end PluginHost
