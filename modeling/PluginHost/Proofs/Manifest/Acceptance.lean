import PluginHost.Proofs.Json.Printed
import PluginHost.Proofs.Manifest.Reading

/-!
# Objects that are taken for manifests

Whether an object is taken for a manifest depends on seven of its fields and on nothing else.  Its
requirements may be whatever they like, and what the object has under other keys does not count.
-/

namespace PluginHost

open Text

namespace Manifest

/-- An object has a text under a key, which is not blank. -/
def HasProperText (fields : JsonFields) (key : String) : Prop :=
  ∃ text, KeyedList.get? key fields = some (.string text) ∧ isBlankText text = false

/-- What an object must have to be taken for a manifest. -/
structure Acceptable (fields : JsonFields) : Prop where
  id : ∃ id, KeyedList.get? "id" fields = some (.string id) ∧ isBlankText id = false ∧
    ∀ c ∈ id.toList, c.isAlphanum = true ∨ c ∈ ['.', '_', '-']
  version : ∃ text, KeyedList.get? "version" fields = some (.string text) ∧
    isBlankText text = false ∧ ∃ version : Version, version.WellFormed ∧
      trimList text.toList = version.text.toList
  apiVersion : HasProperText fields "apiVersion"
  implementation : HasProperText fields "implementation"
  capabilities : ∃ texts, StatesTexts fields "capabilities" texts
  name : ∃ text?, StatesOptionalText fields "name" text?
  description : ∃ text?, StatesOptionalText fields "description" text?

/-- The keys under which a manifest is stated. -/
def keys : List String :=
  shape.fields.map RecordField.name

/-- How a text that spells an object is read as a manifest. -/
structure ReadsByFields (text : String) (fields : JsonFields) : Prop where
  accepted_iff : (∃ manifest, parse text = .ok manifest) ↔ Acceptable fields
  stated : ∀ manifest, parse text = .ok manifest → manifest.IsStatedBy fields
  /-- The requirements never make a difference to whether it is read. -/
  lenient : ∀ {other others}, Json.SpellsOnce other others →
    KeyedList.AgreeOn (keys.erase "requires") fields others →
      ((∃ manifest, parse text = .ok manifest) ↔ ∃ manifest, parse other = .ok manifest)
  /-- Other keys make no difference to what is read. -/
  indifferent : ∀ {other others}, Json.SpellsOnce other others →
    KeyedList.AgreeOn keys fields others → ∀ manifest,
      parse text = .ok manifest ↔ parse other = .ok manifest

variable {fields others : JsonFields} {manifest : Manifest} {text : String}

/-! ### Acceptance -/

theorem notBlank_iff :
    (∀ field ∈ manifest.identifyingFields, isBlankText field.2 = false) ↔
      isBlankText manifest.id = false ∧ isBlankText manifest.version = false ∧
        isBlankText manifest.apiVersion = false ∧ isBlankText manifest.implementation = false := by
  simp [identifyingFields]

theorem isIdChar_iff {c : Char} :
    isIdChar c = true ↔ c.isAlphanum = true ∨ c ∈ ['.', '_', '-'] := by
  simp [isIdChar, or_assoc]

theorem acceptable_of_isStatedBy (states : manifest.IsStatedBy fields) (sound : manifest.IsSound) :
    Acceptable fields := by
  obtain ⟨id, version, apiVersion, implementation⟩ := notBlank_iff.mp sound.notBlank
  exact
    { id := ⟨_, states.id, id, fun c member => isIdChar_iff.mp (sound.idChars c member)⟩
      version := ⟨_, states.version, version, sound.version⟩
      apiVersion := ⟨_, states.apiVersion, apiVersion⟩
      implementation := ⟨_, states.implementation, implementation⟩
      capabilities := ⟨_, states.capabilities⟩
      name := ⟨_, states.name⟩
      description := ⟨_, states.description⟩ }

/-- What is acceptable states a sound manifest, with whatever requirements the object has. -/
theorem exists_isStatedBy (acceptable : Acceptable fields) :
    ∃ manifest : Manifest, manifest.IsStatedBy fields ∧ manifest.IsSound := by
  obtain ⟨id, idUnder, idNotBlank, idChars⟩ := acceptable.id
  obtain ⟨version, versionUnder, versionNotBlank, isVersion⟩ := acceptable.version
  obtain ⟨apiVersion, apiVersionUnder, apiVersionNotBlank⟩ := acceptable.apiVersion
  obtain ⟨implementation, implementationUnder, implementationNotBlank⟩ := acceptable.implementation
  obtain ⟨capabilities, listed⟩ := acceptable.capabilities
  obtain ⟨name, named⟩ := acceptable.name
  obtain ⟨description, described⟩ := acceptable.description
  refine ⟨⟨id, version, apiVersion, implementation, capabilities,
    requirementsOf ((KeyedList.get? "requires" fields).getD .null), name, description⟩,
    ⟨idUnder, versionUnder, apiVersionUnder, implementationUnder, listed,
      fun _ => requirement_iff, fun _ => requirement_iff, named, described⟩, ?_⟩
  exact
    { notBlank := notBlank_iff.mpr
        ⟨idNotBlank, versionNotBlank, apiVersionNotBlank, implementationNotBlank⟩
      idChars := fun c member => isIdChar_iff.mpr (idChars c member)
      version := isVersion }

/-! ### Other fields -/

theorem Acceptable.congr (agree : KeyedList.AgreeOn (keys.erase "requires") fields others)
    (acceptable : Acceptable fields) : Acceptable others where
  id := agree "id" (by decide) ▸ acceptable.id
  version := agree "version" (by decide) ▸ acceptable.version
  apiVersion := by
    rw [HasProperText, ← agree "apiVersion" (by decide)]
    exact acceptable.apiVersion
  implementation := by
    rw [HasProperText, ← agree "implementation" (by decide)]
    exact acceptable.implementation
  capabilities := acceptable.capabilities.imp fun _ => .congr (agree "capabilities" (by decide))
  name := acceptable.name.imp fun _ => .congr (agree "name" (by decide))
  description := acceptable.description.imp fun _ => .congr (agree "description" (by decide))

theorem IsStatedBy.congr (agree : KeyedList.AgreeOn keys fields others)
    (states : manifest.IsStatedBy fields) : manifest.IsStatedBy others := by
  have requirement {key text : String} :
      StatesRequirement fields key text ↔ StatesRequirement others key text := by
    rw [StatesRequirement, StatesRequirement, agree "requires" (by decide)]
  exact
    { id := agree "id" (by decide) ▸ states.id
      version := agree "version" (by decide) ▸ states.version
      apiVersion := agree "apiVersion" (by decide) ▸ states.apiVersion
      implementation := agree "implementation" (by decide) ▸ states.implementation
      capabilities := states.capabilities.congr (agree "capabilities" (by decide))
      host := fun text => (states.host text).trans requirement
      api := fun text => (states.api text).trans requirement
      name := states.name.congr (agree "name" (by decide))
      description := states.description.congr (agree "description" (by decide)) }

/-! ### Reading -/

theorem exists_parse_iff (spells : Json.SpellsOnce text fields) :
    (∃ manifest, parse text = .ok manifest) ↔ Acceptable fields := by
  simp only [parse_eq_ok_iff spells]
  constructor
  · rintro ⟨manifest, states, sound⟩
    exact acceptable_of_isStatedBy states sound
  · exact exists_isStatedBy

theorem parse_readsByFields (spells : Json.SpellsOnce text fields) : ReadsByFields text fields where
  accepted_iff := exists_parse_iff spells
  stated _ reads := ((parse_eq_ok_iff spells).mp reads).1
  lenient again agree := by
    rw [exists_parse_iff spells, exists_parse_iff again]
    exact ⟨.congr agree, .congr agree.symm⟩
  indifferent again agree manifest := by
    rw [parse_eq_ok_iff spells, parse_eq_ok_iff again]
    exact and_congr_left' ⟨.congr agree, .congr agree.symm⟩

/-- The fields of a manifest whose requirements are no object, among others. -/
def oddFields : List (String × Json) :=
  [("version", .string " 1.0.0-rc "), ("requires", .array [.null]), ("id", .string "a.B-7_"),
   ("implementation", .string "b"), ("more", .bool false), ("apiVersion", .string "1")]

/-- Requirements that are no object ask for nothing, and the version stays as it is written. -/
theorem parse_readsByFields_oddFields :
    Json.SpellsOnce (Json.object oddFields).compact (KeyedList.ofList oddFields) ∧
      parse (Json.object oddFields).compact =
        .ok ⟨"a.B-7_", " 1.0.0-rc ", "1", "b", [], ⟨none, none⟩, none, none⟩ ∧
      ReadsByFields (Json.object oddFields).compact (KeyedList.ofList oddFields) := by
  have text {key text : String} :
      Json.IsFieldReadBack (JsonReader.depthLimit - 1) (key, .string text) (key, .string text) :=
    ⟨rfl, Json.isReadBack_string _ _⟩
  have array : Json.IsReadBack (JsonReader.depthLimit - 1) (.array [.null]) (.array [.null]) :=
    Json.isReadBack_array (.cons (Json.isReadBack_null _) .nil) (by decide)
  have fields : List.Forall₂ (Json.IsFieldReadBack (JsonReader.depthLimit - 1))
      oddFields oddFields :=
    .cons text <| .cons ⟨rfl, array⟩ <| .cons text <| .cons text <|
      .cons ⟨rfl, Json.isReadBack_bool _ _⟩ <| .cons text .nil
  have spells : Json.SpellsOnce (Json.object oddFields).compact (KeyedList.ofList oddFields) :=
    ⟨oddFields, Json.spellsFields_compact fields, by decide, rfl⟩
  exact ⟨spells, by decide +kernel, parse_readsByFields spells⟩

end Manifest

end PluginHost
