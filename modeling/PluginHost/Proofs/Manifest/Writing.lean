import Mathlib.Data.List.Perm.Basic
import PluginHost.Proofs.Json.Printed
import PluginHost.Proofs.Manifest.Reading

/-!
# Manifests that are written

A manifest that has been read is read again from what is written of it, in whatever order its fields
are written and whichever of its options are absent.
-/

namespace PluginHost

open Text

/-- The constraints that are present, in the order in which they are declared. -/
def Requirements.entries (requirements : Requirements) : List (String × Json) :=
  Manifest.presentFields [("host", requirements.host), ("api", requirements.api)]

namespace Manifest

/-- The fields of a manifest in the order in which they are declared, with its requirements as they
are written. -/
def entries (manifest : Manifest) (requirements : Json) : List (String × Json) :=
  [("id", .string manifest.id), ("version", .string manifest.version),
   ("apiVersion", .string manifest.apiVersion),
   ("implementation", .string manifest.implementation),
   ("capabilities", .array (manifest.capabilities.map .string)), ("requires", requirements)] ++
    presentFields [("name", manifest.name), ("description", manifest.description)]

/-- A manifest is read again from what is written of it. -/
structure IsReadBack (manifest : Manifest) : Prop where
  spelled : ∀ {text fields}, Json.SpellsOnce text fields → manifest.toJson = .object fields →
    parse text = .ok manifest
  compact : parse manifest.toJson.compact = .ok manifest
  anyOrder : ∀ {requirements entries}, requirements.Perm manifest.requires.entries →
    entries.Perm (manifest.entries (.object requirements)) →
      parse (Json.object entries).compact = .ok manifest

variable {manifest : Manifest} {text key : String}

/-! ### The fields that are written -/

theorem toJson_eq (manifest : Manifest) :
    manifest.toJson = .ofFields (manifest.entries (.ofFields manifest.requires.entries)) :=
  rfl

theorem exists_text_of_mem_presentFields {fields : List (String × Option String)}
    {entry : String × Json} (member : entry ∈ presentFields fields) :
    ∃ text, entry.2 = .string text := by
  obtain ⟨⟨key, text?⟩, -, written⟩ := List.mem_filterMap.mp member
  obtain ⟨text, -, rfl⟩ := Option.map_eq_some_iff.mp written
  exact ⟨text, rfl⟩

theorem keys_presentFields_sublist (fields : List (String × Option String)) :
    (KeyedList.keys (presentFields fields)).Sublist (fields.map Prod.fst) := by
  induction fields with
  | nil => exact .slnil
  | cons field fields ih =>
      obtain ⟨key, text?⟩ := field
      cases text? with
      | none => exact .cons _ ih
      | some text => exact .cons_cons _ ih

theorem get?_presentFields {fields : List (String × Option String)}
    (distinct : (fields.map Prod.fst).Nodup) {text? : Option String}
    (member : (key, text?) ∈ fields) :
    KeyedList.get? key (presentFields fields) = text?.map .string := by
  have absent {others : List (String × Option String)} (notNamed : key ∉ others.map Prod.fst) :
      KeyedList.get? key (presentFields others) = none :=
    (KeyedList.get?_eq_none_iff _ _).mpr fun among =>
      notNamed ((keys_presentFields_sublist others).subset among)
  induction fields with
  | nil => cases member
  | cons field fields ih =>
      obtain ⟨newKey, others⟩ := List.nodup_cons.mp distinct
      rcases List.mem_cons.mp member with rfl | later
      · cases text? with
        | none =>
            change KeyedList.get? key (presentFields fields) = none
            exact absent newKey
        | some text => exact if_pos (beq_self_eq_true key)
      · obtain ⟨other, otherText?⟩ := field
        have apart : other ≠ key := by
          rintro rfl
          have among : other ∈ fields.map Prod.fst := List.mem_map_of_mem later
          exact newKey among
        cases otherText? with
        | none => exact ih others later
        | some text => exact (if_neg (by simpa using apart)).trans (ih others later)

theorem names_requirements_nodup (requirements : Requirements) :
    ([("host", requirements.host), ("api", requirements.api)].map Prod.fst).Nodup :=
  show ["host", "api"].Nodup by decide

theorem keys_requirements_nodup (requirements : Requirements) :
    (KeyedList.keys requirements.entries).Nodup :=
  (names_requirements_nodup requirements).sublist (keys_presentFields_sublist _)

theorem keys_entries_nodup (manifest : Manifest) (requirements : Json) :
    (KeyedList.keys (manifest.entries requirements)).Nodup := by
  have names : (["id", "version", "apiVersion", "implementation", "capabilities", "requires"] ++
      ["name", "description"]).Nodup := by decide
  refine names.sublist ?_
  rw [entries, KeyedList.keys, List.map_append]
  exact (List.Sublist.refl _).append (keys_presentFields_sublist _)

theorem statesOptionalText_of_presentFields {fields : List (String × Option String)}
    {all : JsonFields} (distinct : (fields.map Prod.fst).Nodup) {text? : Option String}
    (member : (key, text?) ∈ fields)
    (same : KeyedList.get? key all = KeyedList.get? key (presentFields fields)) :
    StatesOptionalText all key text? := by
  rw [get?_presentFields distinct member] at same
  cases text? with
  | none => exact .absent same
  | some text => exact .text same

theorem statesRequirement_iff {all : JsonFields} {requirements : Requirements}
    {text? : Option String}
    (under : KeyedList.get? "requires" all = some (.ofFields requirements.entries))
    (member : (key, text?) ∈ [("host", requirements.host), ("api", requirements.api)]) :
    text? = some text ↔ StatesRequirement all key text := by
  have found : KeyedList.get? key (KeyedList.ofList requirements.entries) = text?.map .string := by
    rw [KeyedList.get?_ofList_of_nodup (keys_requirements_nodup requirements)]
    exact get?_presentFields (names_requirements_nodup requirements) member
  constructor
  · rintro rfl
    exact ⟨_, under, found⟩
  · rintro ⟨stated, also, there⟩
    obtain rfl := Json.object.inj (Option.some.inj (under.symm.trans also))
    rw [found, Option.map_eq_some_iff] at there
    obtain ⟨same, present, spelled⟩ := there
    rw [present, Json.string.inj spelled]

/-- What is written of a manifest states it. -/
theorem isStatedBy_entries (manifest : Manifest) :
    manifest.IsStatedBy
      (KeyedList.ofList (manifest.entries (.ofFields manifest.requires.entries))) := by
  have names : ([("name", manifest.name), ("description", manifest.description)].map
      Prod.fst).Nodup := show ["name", "description"].Nodup by decide
  have found (key : String) :=
    KeyedList.get?_ofList_of_nodup
      (keys_entries_nodup manifest (.ofFields manifest.requires.entries)) key
  exact
    { id := found "id"
      version := found "version"
      apiVersion := found "apiVersion"
      implementation := found "implementation"
      capabilities := .listed (found "capabilities")
      host := fun text => statesRequirement_iff (found "requires") (by simp)
      api := fun text => statesRequirement_iff (found "requires") (by simp)
      name := statesOptionalText_of_presentFields names (by simp) (found "name")
      description := statesOptionalText_of_presentFields names (by simp) (found "description") }

/-! ### Texts of the fields -/

variable {depth : Nat} {requirements entries : List (String × Json)}

theorem forall₂_isFieldReadBack_texts (texts : ∀ entry ∈ entries, ∃ text, entry.2 = .string text) :
    List.Forall₂ (Json.IsFieldReadBack depth) entries entries := by
  refine List.forall₂_same.mpr fun entry member => ?_
  obtain ⟨text, same⟩ := texts entry member
  rw [Json.IsFieldReadBack, same]
  exact ⟨rfl, Json.isReadBack_string depth text⟩

/-- The fields of a manifest are read back, its requirements in the order of their keys. -/
theorem forall₂_isFieldReadBack_entries (manifest : Manifest) (deep : 0 < depth)
    (texts : ∀ entry ∈ requirements, ∃ text, entry.2 = .string text) :
    List.Forall₂ (Json.IsFieldReadBack (depth + 1)) (manifest.entries (.object requirements))
      (manifest.entries (.ofFields requirements)) := by
  have text (key text : String) :
      Json.IsFieldReadBack (depth + 1) (key, .string text) (key, .string text) :=
    ⟨rfl, Json.isReadBack_string _ text⟩
  have capability (text : String) : Json.IsReadBack depth (.string text) (.string text) :=
    Json.isReadBack_string depth text
  have capabilities : Json.IsReadBack (depth + 1) (.array (manifest.capabilities.map .string))
      (.array (manifest.capabilities.map .string)) :=
    Json.isReadBack_array (List.forall₂_same.mpr fun item member => by
      obtain ⟨text, -, rfl⟩ := List.mem_map.mp member
      exact capability text) deep
  have required : Json.IsReadBack (depth + 1) (.object requirements) (.ofFields requirements) :=
    Json.isReadBack_object (forall₂_isFieldReadBack_texts texts) deep
  exact .cons (text _ _) <| .cons (text _ _) <| .cons (text _ _) <| .cons (text _ _) <|
    .cons ⟨rfl, capabilities⟩ <| .cons ⟨rfl, required⟩ <|
      forall₂_isFieldReadBack_texts fun _ => exists_text_of_mem_presentFields

/-- Fields that are written in any order spell what the manifest is written as, whatever blanks
follow them. -/
theorem spellsOnce_entries_append (manifest : Manifest)
    (required : requirements.Perm manifest.requires.entries)
    (listed : entries.Perm (manifest.entries (.object requirements))) (blanks : String)
    (blank : JsonReader.skipSeparators (symbolsOf blanks) = []) :
    Json.SpellsOnce ((Json.object entries).compact ++ blanks)
      (KeyedList.ofList (manifest.entries (.ofFields manifest.requires.entries))) := by
  have texts : ∀ entry ∈ requirements, ∃ text, entry.2 = .string text :=
    fun _ member => exists_text_of_mem_presentFields (required.subset member)
  have distinct : (KeyedList.keys requirements).Nodup :=
    (required.map Prod.fst).nodup_iff.mpr (keys_requirements_nodup manifest.requires)
  have sameRequirements : Json.ofFields requirements = .ofFields manifest.requires.entries :=
    congrArg Json.object (KeyedList.ofList_eq_of_perm required distinct)
  -- The fields are read in the order in which they are written, which is any.
  obtain ⟨read, readBack, reordered⟩ := List.perm_comp_forall₂ listed
    (forall₂_isFieldReadBack_entries manifest (show 0 < JsonReader.depthLimit - 2 by decide) texts)
  rw [sameRequirements] at reordered
  have readDistinct : (KeyedList.keys read).Nodup :=
    (reordered.map Prod.fst).nodup_iff.mpr (keys_entries_nodup manifest _)
  exact ⟨read, Json.spellsFields_compact_append readBack blanks blank, readDistinct,
    (KeyedList.ofList_eq_of_perm reordered readDistinct).symm⟩

theorem spellsOnce_entries (manifest : Manifest)
    (required : requirements.Perm manifest.requires.entries)
    (listed : entries.Perm (manifest.entries (.object requirements))) :
    Json.SpellsOnce (Json.object entries).compact
      (KeyedList.ofList (manifest.entries (.ofFields manifest.requires.entries))) := by
  simpa using spellsOnce_entries_append manifest required listed "" rfl

/-- Reading and writing do not change a manifest that has been read. -/
theorem parse_isReadBack (reads : parse text = .ok manifest) : manifest.IsReadBack := by
  have sound := isSound_of_parse reads
  have anyOrder {requirements entries : List (String × Json)}
      (required : requirements.Perm manifest.requires.entries)
      (listed : entries.Perm (manifest.entries (.object requirements))) :
      parse (Json.object entries).compact = .ok manifest :=
    (parse_eq_ok_iff (spellsOnce_entries manifest required listed)).mpr
      ⟨isStatedBy_entries manifest, sound⟩
  refine ⟨?_, ?_, anyOrder⟩
  · intro text fields spells written
    obtain rfl := Json.object.inj ((toJson_eq manifest).symm.trans written)
    exact (parse_eq_ok_iff spells).mpr ⟨isStatedBy_entries manifest, sound⟩
  · rw [toJson_eq]
    exact anyOrder (KeyedList.ofList_perm (keys_requirements_nodup manifest.requires))
      (KeyedList.ofList_perm (keys_entries_nodup manifest _))

/-- The fields of a manifest with a constraint that is empty and one that is none. -/
def looseFields : List (String × Json) :=
  [("requires", .object [("host", .string ""), ("api", .bool true)]), ("id", .string "a"),
   ("version", .string "1.0.0 "), ("apiVersion", .string "1"), ("implementation", .string "b"),
   ("description", .string "\x07 \"")]

/-- An empty constraint is kept apart from an absent one, and a text may hold anything. -/
theorem parse_isReadBack_looseFields :
    parse (Json.object looseFields).compact =
        .ok ⟨"a", "1.0.0 ", "1", "b", [], ⟨some "", none⟩, none, some "\x07 \""⟩ ∧
      IsReadBack ⟨"a", "1.0.0 ", "1", "b", [], ⟨some "", none⟩, none, some "\x07 \""⟩ := by
  have reads : parse (Json.object looseFields).compact =
      .ok ⟨"a", "1.0.0 ", "1", "b", [], ⟨some "", none⟩, none, some "\x07 \""⟩ := by
    decide +kernel
  exact ⟨reads, parse_isReadBack reads⟩

end Manifest

end PluginHost
