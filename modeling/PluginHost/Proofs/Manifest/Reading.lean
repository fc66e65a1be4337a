import PluginHost.Manifest
import PluginHost.Proofs.Json.RecordText
import PluginHost.Proofs.Version.Reading

/-!
# Manifests that objects state

An object states a manifest if it has the manifest's fields, whatever else it has and whatever its
requirements are.  A text that spells an object with no key twice is read as the one manifest that
the object states, provided that this is sound: its identifying fields are not blank, its id has
proper characters only and its version is a version.
-/

namespace PluginHost

open Text

/-- What an object has under a key where a text is optional. -/
inductive StatesOptionalText (fields : JsonFields) (key : String) : Option String → Prop where
  | absent (missing : KeyedList.get? key fields = none) : StatesOptionalText fields key none
  | null (under : KeyedList.get? key fields = some .null) : StatesOptionalText fields key none
  | text {text : String} (under : KeyedList.get? key fields = some (.string text)) :
      StatesOptionalText fields key (some text)

/-- What an object has under a key where texts may be listed. -/
inductive StatesTexts (fields : JsonFields) (key : String) : List String → Prop where
  | absent (missing : KeyedList.get? key fields = none) : StatesTexts fields key []
  | listed {texts : List String}
      (under : KeyedList.get? key fields = some (.array (texts.map .string))) :
      StatesTexts fields key texts

theorem StatesOptionalText.unique {fields : JsonFields} {key : String}
    {first second : Option String} (states : StatesOptionalText fields key first)
    (again : StatesOptionalText fields key second) : first = second := by
  cases states <;> cases again <;> simp_all

theorem StatesTexts.unique {fields : JsonFields} {key : String} {first second : List String}
    (states : StatesTexts fields key first) (again : StatesTexts fields key second) :
    first = second := by
  cases states with
  | absent missing =>
      cases again with
      | absent => rfl
      | listed under =>
          rw [missing] at under
          cases under
  | listed under =>
      cases again with
      | absent missing =>
          rw [missing] at under
          cases under
      | listed also =>
          have same := Json.array.inj (Option.some.inj (under.symm.trans also))
          exact List.map_injective_iff.mpr (fun _ _ => Json.string.inj) same

theorem StatesOptionalText.congr {fields others : JsonFields} {key : String} {text? : Option String}
    (same : KeyedList.get? key fields = KeyedList.get? key others)
    (states : StatesOptionalText fields key text?) : StatesOptionalText others key text? := by
  cases states with
  | absent missing => exact .absent (same ▸ missing)
  | null under => exact .null (same ▸ under)
  | text under => exact .text (same ▸ under)

theorem StatesTexts.congr {fields others : JsonFields} {key : String} {texts : List String}
    (same : KeyedList.get? key fields = KeyedList.get? key others)
    (states : StatesTexts fields key texts) : StatesTexts others key texts := by
  cases states with
  | absent missing => exact .absent (same ▸ missing)
  | listed under => exact .listed (same ▸ under)

namespace Manifest

/-- A text of the requirements of an object, if these are an object themselves. -/
def StatesRequirement (fields : JsonFields) (key text : String) : Prop :=
  ∃ requirements, KeyedList.get? "requires" fields = some (.object requirements) ∧
    KeyedList.get? key requirements = some (.string text)

/-- An object states a manifest. -/
structure IsStatedBy (fields : JsonFields) (manifest : Manifest) : Prop where
  id : KeyedList.get? "id" fields = some (.string manifest.id)
  version : KeyedList.get? "version" fields = some (.string manifest.version)
  apiVersion : KeyedList.get? "apiVersion" fields = some (.string manifest.apiVersion)
  implementation : KeyedList.get? "implementation" fields = some (.string manifest.implementation)
  capabilities : StatesTexts fields "capabilities" manifest.capabilities
  host : ∀ text, manifest.requires.host = some text ↔ StatesRequirement fields "host" text
  api : ∀ text, manifest.requires.api = some text ↔ StatesRequirement fields "api" text
  name : StatesOptionalText fields "name" manifest.name
  description : StatesOptionalText fields "description" manifest.description

/-- What is checked of a manifest. -/
structure IsSound (manifest : Manifest) : Prop where
  notBlank : ∀ field ∈ manifest.identifyingFields, isBlankText field.2 = false
  idChars : ∀ c ∈ manifest.id.toList, isIdChar c = true
  version : ∃ version : Version, version.WellFormed ∧
    trimList manifest.version.toList = version.text.toList

variable {manifest checked : Manifest} {fields : JsonFields} {values : RecordValues}
  {text : String}

theorem check_eq_ok_iff : manifest.check = .ok checked ↔ manifest = checked ∧ manifest.IsSound := by
  unfold check
  constructor
  · intro passes
    split at passes
    · cases passes
    · next noBlank =>
        split at passes
        · cases passes
        · next proper =>
            split at passes
            · cases passes
            · next version reads =>
                cases passes
                refine ⟨rfl, ?_, ?_, version, Version.parseList_eq_ok_iff.mp reads⟩
                · simpa using List.find?_eq_none.mp noBlank
                · simpa using proper
  · rintro ⟨rfl, notBlank, idChars, version, spelled⟩
    have noBlank : (manifest.identifyingFields.find? fun field => isBlankText field.2) = none :=
      List.find?_eq_none.mpr (by simpa using notBlank)
    have proper : manifest.id.toList.all isIdChar = true := List.all_eq_true.mpr idChars
    rw [noBlank]
    simp only [proper, Version.parseList_eq_ok_iff.mpr spelled]
    rfl

theorem isSound_of_parse (reads : parse text = .ok manifest) : manifest.IsSound := by
  rw [parse] at reads
  split at reads
  · cases reads
  · obtain ⟨rfl, sound⟩ := check_eq_ok_iff.mp reads
    exact sound

/-! ### The record of a manifest -/

theorem names_nodup : (shape.fields.map RecordField.name).Nodup := by
  decide

theorem forall_shape_iff {finds : RecordField → Prop} :
    (∀ field ∈ shape.fields, finds field) ↔
      finds ⟨"id", .text, true⟩ ∧ finds ⟨"version", .text, true⟩ ∧
        finds ⟨"apiVersion", .text, true⟩ ∧ finds ⟨"implementation", .text, true⟩ ∧
          finds ⟨"capabilities", .textList, false⟩ ∧ finds ⟨"requires", .value, false⟩ ∧
            finds ⟨"name", .optionalText, false⟩ ∧ finds ⟨"description", .optionalText, false⟩ := by
  simp only [shape, List.forall_mem_cons, List.not_mem_nil, false_implies, implies_true, and_true]

theorem textOf_of_finds {key : String}
    (finds : RecordField.Finds fields ⟨key, .text, true⟩ (RecordValues.find? key values)) :
    KeyedList.get? key fields = some (.string (values.textOf key)) := by
  obtain ⟨text, under, found⟩ := RecordField.finds_text_iff.mp finds
  rw [RecordValues.textOf, found, under]

theorem optionalTextOf_of_finds {key : String}
    (finds : RecordField.Finds fields ⟨key, .optionalText, false⟩
      (RecordValues.find? key values)) :
    StatesOptionalText fields key (values.optionalTextOf key) := by
  rw [RecordValues.optionalTextOf]
  obtain ⟨missing, found⟩ | ⟨under, found⟩ | ⟨text, under, found⟩ :=
    RecordField.finds_optionalText_iff.mp finds
  · rw [found]
    exact .absent missing
  · rw [found]
    exact .null under
  · rw [found]
    exact .text under

theorem textListOf_of_finds {key : String}
    (finds : RecordField.Finds fields ⟨key, .textList, false⟩ (RecordValues.find? key values)) :
    StatesTexts fields key (values.textListOf key) := by
  rw [RecordValues.textListOf]
  obtain ⟨missing, found⟩ | ⟨texts, under, found⟩ := RecordField.finds_textList_iff.mp finds
  · rw [found]
    exact .absent missing
  · rw [found]
    exact .listed under

theorem requirement_iff {key text : String} :
    (((KeyedList.get? "requires" fields).getD .null).get? key).bind Json.asString? = some text ↔
      StatesRequirement fields key text := by
  rw [StatesRequirement, Json.bind_asString?_eq_some_iff]
  cases KeyedList.get? "requires" fields with
  | none => simp [Json.get?]
  | some value => cases value <;> simp [Json.get?]

theorem valueOf_of_finds {key : String}
    (finds : RecordField.Finds fields ⟨key, .value, false⟩ (RecordValues.find? key values)) :
    values.valueOf key = (KeyedList.get? key fields).getD .null := by
  rw [RecordValues.valueOf, RecordField.finds_value_iff.mp finds]
  cases KeyedList.get? key fields <;> rfl

theorem ofRecord_isStatedBy
    (finds : ∀ field ∈ shape.fields, field.Finds fields (RecordValues.find? field.name values)) :
    (ofRecord values).IsStatedBy fields := by
  obtain ⟨id, version, apiVersion, implementation, capabilities, requires, name, description⟩ :=
    forall_shape_iff.mp finds
  have requirement {key text : String} :
      ((values.valueOf "requires").get? key).bind Json.asString? = some text ↔
        StatesRequirement fields key text := by
    rw [valueOf_of_finds requires]
    exact requirement_iff
  exact
    { id := textOf_of_finds id
      version := textOf_of_finds version
      apiVersion := textOf_of_finds apiVersion
      implementation := textOf_of_finds implementation
      capabilities := textListOf_of_finds capabilities
      host := fun _ => requirement
      api := fun _ => requirement
      name := optionalTextOf_of_finds name
      description := optionalTextOf_of_finds description }

/-! ### Texts of manifests -/

/-- An object states one manifest at most. -/
theorem IsStatedBy.unique {other : Manifest} (states : manifest.IsStatedBy fields)
    (again : other.IsStatedBy fields) : manifest = other := by
  have sameText {key first second : String}
      (under : KeyedList.get? key fields = some (.string first))
      (also : KeyedList.get? key fields = some (.string second)) : first = second :=
    Json.string.inj (Option.some.inj (under.symm.trans also))
  have host : manifest.requires.host = other.requires.host :=
    Option.ext fun text => (states.host text).trans (again.host text).symm
  have api : manifest.requires.api = other.requires.api :=
    Option.ext fun text => (states.api text).trans (again.api text).symm
  obtain ⟨id, version, apiVersion, implementation, capabilities, ⟨_, _⟩, name, description⟩ :=
    manifest
  obtain ⟨_, _, _, _, _, ⟨_, _⟩, _, _⟩ := other
  obtain rfl := sameText states.id again.id
  obtain rfl := sameText states.version again.version
  obtain rfl := sameText states.apiVersion again.apiVersion
  obtain rfl := sameText states.implementation again.implementation
  obtain rfl := states.capabilities.unique again.capabilities
  obtain rfl := host
  obtain rfl := api
  obtain rfl := states.name.unique again.name
  obtain rfl := states.description.unique again.description
  rfl

/-- An object states a manifest if the fields of a manifest can do with what it has. -/
theorem exists_finds (states : manifest.IsStatedBy fields) :
    ∀ field ∈ shape.fields, ∃ found, field.Finds fields found := by
  have text {key text : String} (under : KeyedList.get? key fields = some (.string text)) :
      ∃ found, RecordField.Finds fields ⟨key, .text, true⟩ found :=
    ⟨_, RecordField.finds_text_iff.mpr ⟨text, under, rfl⟩⟩
  have optionalText {key : String} {text? : Option String}
      (stated : StatesOptionalText fields key text?) :
      ∃ found, RecordField.Finds fields ⟨key, .optionalText, false⟩ found := by
    simp only [RecordField.finds_optionalText_iff]
    cases stated with
    | absent missing => exact ⟨_, .inl ⟨missing, rfl⟩⟩
    | null under => exact ⟨_, .inr (.inl ⟨under, rfl⟩)⟩
    | text under => exact ⟨_, .inr (.inr ⟨_, under, rfl⟩)⟩
  have texts {key : String} {listed : List String} (stated : StatesTexts fields key listed) :
      ∃ found, RecordField.Finds fields ⟨key, .textList, false⟩ found := by
    simp only [RecordField.finds_textList_iff]
    cases stated with
    | absent missing => exact ⟨_, .inl ⟨missing, rfl⟩⟩
    | listed under => exact ⟨_, .inr ⟨_, under, rfl⟩⟩
  exact forall_shape_iff.mpr ⟨text states.id, text states.version, text states.apiVersion,
    text states.implementation, texts states.capabilities,
    ⟨_, RecordField.finds_value_iff.mpr rfl⟩, optionalText states.name,
    optionalText states.description⟩

/-- A text that spells an object once is read as the sound manifest that the object states. -/
theorem parse_eq_ok_iff (spells : Json.SpellsOnce text fields) :
    parse text = .ok manifest ↔ manifest.IsStatedBy fields ∧ manifest.IsSound := by
  rw [parse]
  constructor
  · intro reads
    split at reads
    · cases reads
    · next values read =>
        obtain ⟨rfl, sound⟩ := check_eq_ok_iff.mp reads
        refine ⟨ofRecord_isStatedBy fun _ => ?_, sound⟩
        exact RecordShape.finds_of_read names_nodup spells read
  · rintro ⟨states, sound⟩
    -- Some record is read, which is the stated manifest since the object states no other one.
    obtain ⟨values, read⟩ :=
      (RecordShape.exists_read_iff names_nodup spells).mpr (exists_finds states)
    have same : ofRecord values = manifest :=
      (ofRecord_isStatedBy fun _ => RecordShape.finds_of_read names_nodup spells read).unique states
    rw [read, ← check_eq_ok_iff.mpr ⟨same, same ▸ sound⟩]

end Manifest

end PluginHost
