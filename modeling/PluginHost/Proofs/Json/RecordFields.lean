import PluginHost.Proofs.Json.Record
import PluginHost.Proofs.KeyedList

/-!
# What an object has for the fields of a record

A field of a record finds under its name what it can do with, or nothing if it is optional.  An
object is a record if this holds for every field of the shape, and what is read for a field is what
the field finds: the order of the object's fields and those of other names do not count.
-/

namespace PluginHost

/-! ### Values of a kind -/

namespace Json

variable {value : Json}

theorem asString?_eq_some_iff {text : String} :
    value.asString? = some text ↔ value = .string text := by
  cases value <;> simp [asString?]

theorem bind_asString?_eq_some_iff {found : Option Json} {text : String} :
    found.bind asString? = some text ↔ found = some (.string text) := by
  simp [Option.bind_eq_some_iff, asString?_eq_some_iff]

theorem toText_eq_ok_iff {text : String} : value.toText = .ok text ↔ value = .string text := by
  cases value <;> simp [toText]

theorem toOptionalText_eq_ok_iff {text? : Option String} :
    value.toOptionalText = .ok text? ↔
      value = .null ∧ text? = none ∨ ∃ text, value = .string text ∧ text? = some text := by
  cases value <;> simp [toOptionalText, toText, Except.map, eq_comm]

theorem mapM_toText_eq_ok_iff {items : List Json} {texts : List String} :
    items.mapM toText = .ok texts ↔ items = texts.map .string := by
  induction items generalizing texts with
  | nil => cases texts <;> simp [pure, Except.pure]
  | cons item items ih =>
      rw [List.mapM_cons]
      simp only [bind_eq_ok_iff, toText_eq_ok_iff, ih, pure, Except.pure, Except.ok.injEq]
      cases texts with
      | nil => simp
      | cons text texts => simp [and_comm]

theorem toTextList_eq_ok_iff {texts : List String} :
    value.toTextList = .ok texts ↔ value = .array (texts.map .string) := by
  cases value <;> simp [toTextList, mapM_toText_eq_ok_iff]

end Json

/-! ### What an object has for a field -/

/-- What an object has for a field of a record: nothing, if the field can do without, or a value
of the field's kind. -/
inductive RecordField.Finds (fields : JsonFields) (field : RecordField) :
    Option FieldValue → Prop where
  | absent (missing : KeyedList.get? field.name fields = none) (optional : field.required = false) :
      Finds fields field none
  | present {value : Json} {found : FieldValue}
      (under : KeyedList.get? field.name fields = some value)
      (holds : value.toFieldValue field.kind = .ok found) : Finds fields field (some found)

namespace RecordField

variable {fields : JsonFields} {name : String} {found : Option FieldValue}

theorem finds_ofList_iff {field : RecordField} {entries : List (String × Json)}
    (distinct : (KeyedList.keys entries).Nodup) :
    field.Finds (KeyedList.ofList entries) found ↔ field.Finds entries found := by
  have same := KeyedList.get?_ofList_of_nodup distinct field.name
  constructor
  · rintro (⟨missing, optional⟩ | ⟨under, holds⟩)
    · exact .absent (same ▸ missing) optional
    · exact .present (same ▸ under) holds
  · rintro (⟨missing, optional⟩ | ⟨under, holds⟩)
    · exact .absent (same.trans missing) optional
    · exact .present (same.trans under) holds

theorem finds_iff {field : RecordField} :
    field.Finds fields found ↔
      KeyedList.get? field.name fields = none ∧ field.required = false ∧ found = none ∨
        ∃ value read, KeyedList.get? field.name fields = some value ∧
          value.toFieldValue field.kind = .ok read ∧ found = some read := by
  constructor
  · rintro (⟨missing, optional⟩ | ⟨under, holds⟩)
    · exact .inl ⟨missing, optional, rfl⟩
    · exact .inr ⟨_, _, under, holds, rfl⟩
  · rintro (⟨missing, optional, rfl⟩ | ⟨value, read, under, holds, rfl⟩)
    · exact .absent missing optional
    · exact .present under holds

theorem finds_text_iff :
    Finds fields ⟨name, .text, true⟩ found ↔
      ∃ text, KeyedList.get? name fields = some (.string text) ∧ found = some (.text text) := by
  simp only [finds_iff, Json.toFieldValue, map_eq_ok_iff, Json.toText_eq_ok_iff]
  constructor
  · rintro (⟨-, required, -⟩ | ⟨value, read, under, ⟨text, rfl, rfl⟩, rfl⟩)
    · cases required
    · exact ⟨text, under, rfl⟩
  · rintro ⟨text, under, rfl⟩
    exact .inr ⟨_, _, under, ⟨text, rfl, rfl⟩, rfl⟩

theorem finds_optionalText_iff :
    Finds fields ⟨name, .optionalText, false⟩ found ↔
      KeyedList.get? name fields = none ∧ found = none ∨
        KeyedList.get? name fields = some .null ∧ found = some (.optionalText none) ∨
          ∃ text, KeyedList.get? name fields = some (.string text) ∧
            found = some (.optionalText (some text)) := by
  simp only [finds_iff, Json.toFieldValue, map_eq_ok_iff, Json.toOptionalText_eq_ok_iff, true_and]
  constructor
  · rintro (⟨missing, rfl⟩ | ⟨value, read, under, ⟨text?, holds, rfl⟩, rfl⟩)
    · exact .inl ⟨missing, rfl⟩
    · obtain ⟨rfl, rfl⟩ | ⟨text, rfl, rfl⟩ := holds
      · exact .inr (.inl ⟨under, rfl⟩)
      · exact .inr (.inr ⟨text, under, rfl⟩)
  · rintro (⟨missing, rfl⟩ | ⟨under, rfl⟩ | ⟨text, under, rfl⟩)
    · exact .inl ⟨missing, rfl⟩
    · exact .inr ⟨_, _, under, ⟨none, .inl ⟨rfl, rfl⟩, rfl⟩, rfl⟩
    · exact .inr ⟨_, _, under, ⟨some text, .inr ⟨text, rfl, rfl⟩, rfl⟩, rfl⟩

theorem finds_textList_iff :
    Finds fields ⟨name, .textList, false⟩ found ↔
      KeyedList.get? name fields = none ∧ found = none ∨
        ∃ texts : List String, KeyedList.get? name fields = some (.array (texts.map .string)) ∧
          found = some (.textList texts) := by
  simp only [finds_iff, Json.toFieldValue, map_eq_ok_iff, Json.toTextList_eq_ok_iff, true_and]
  constructor
  · rintro (⟨missing, rfl⟩ | ⟨value, read, under, ⟨texts, rfl, rfl⟩, rfl⟩)
    · exact .inl ⟨missing, rfl⟩
    · exact .inr ⟨texts, under, rfl⟩
  · rintro (⟨missing, rfl⟩ | ⟨texts, under, rfl⟩)
    · exact .inl ⟨missing, rfl⟩
    · exact .inr ⟨_, _, under, ⟨texts, rfl, rfl⟩, rfl⟩

theorem finds_value_iff :
    Finds fields ⟨name, .value, false⟩ found ↔
      found = (KeyedList.get? name fields).map .value := by
  simp only [finds_iff, Json.toFieldValue, Except.ok.injEq]
  cases KeyedList.get? name fields with
  | none => simp
  | some value => simp

end RecordField

namespace RecordShape

variable {shape : RecordShape} {read values : RecordValues} {entries : List (String × Json)}
  {field : RecordField}

theorem field?_of_mem (distinct : (shape.fields.map RecordField.name).Nodup)
    (member : field ∈ shape.fields) : shape.field? field.name = some field := by
  cases found : shape.field? field.name with
  | none =>
      have absent := List.find?_eq_none.mp found field member
      simp at absent
  | some other =>
      obtain ⟨among, same⟩ := field?_eq_some found
      exact congrArg some (List.inj_on_of_nodup_map distinct among member same)

theorem missing?_eq_none_iff :
    shape.missing? values = none ↔ ∀ field ∈ shape.fields, field.required = true →
      (RecordValues.find? field.name values).isSome = true := by
  refine ⟨fun complete _ => present_of_missing? complete, fun present => ?_⟩
  rw [missing?, Option.map_eq_none_iff, List.find?_eq_none]
  intro field member
  cases required : field.required with
  | false => simp
  | true => simp [Option.isSome_iff_ne_none.mp (present field member required)]

/-- What is read for a field is found under its name, and what is not there leaves what was read
before. -/
theorem find?_of_recordOfFields (names : (shape.fields.map RecordField.name).Nodup)
    (distinct : (KeyedList.keys entries).Nodup)
    (reads : Json.recordOfFields shape read entries = .ok values) (member : field ∈ shape.fields) :
    (∃ value found, KeyedList.get? field.name entries = some value ∧
        value.toFieldValue field.kind = .ok found ∧
        RecordValues.find? field.name values = some found) ∨
      KeyedList.get? field.name entries = none ∧
        RecordValues.find? field.name values = RecordValues.find? field.name read ∧
        (field.required = true → (RecordValues.find? field.name values).isSome = true) := by
  induction entries generalizing read with
  | nil =>
      rw [Json.recordOfFields] at reads
      split at reads
      · cases reads
      · next complete =>
          cases reads
          exact .inr ⟨rfl, rfl, missing?_eq_none_iff.mp complete field member⟩
  | cons entry entries ih =>
      obtain ⟨name, value⟩ := entry
      obtain ⟨newName, laterDistinct⟩ := List.nodup_cons.mp distinct
      rw [Json.recordOfFields] at reads
      rw [KeyedList.get?_cons]
      split at reads
      · next unknown =>
          have apart : name ≠ field.name := by
            rintro rfl
            rw [field?_of_mem names member] at unknown
            cases unknown
          rw [if_neg apart]
          exact ih laterDistinct reads
      · next known =>
          obtain ⟨among, rfl⟩ := field?_eq_some known
          split at reads
          · cases reads
          · next found holds =>
              have later := ih laterDistinct reads
              split
              · next same =>
                  obtain rfl := List.inj_on_of_nodup_map names among member same
                  -- The name does not come again, so that what is read now stays.
                  rw [(KeyedList.get?_eq_none_iff _ _).mpr newName] at later
                  obtain ⟨_, _, absurd, -⟩ | ⟨-, same, -⟩ := later
                  · cases absurd
                  · refine .inl ⟨value, found, rfl, holds, ?_⟩
                    rw [same, RecordValues.find?_cons, if_pos rfl]
              · next apart =>
                  rwa [RecordValues.find?_cons, if_neg (Ne.symm apart)] at later

theorem exists_recordOfFields (names : (shape.fields.map RecordField.name).Nodup)
    (kinds : ∀ field ∈ shape.fields, ∀ value, (field.name, value) ∈ entries →
      ∃ found, value.toFieldValue field.kind = .ok found)
    (present : ∀ field ∈ shape.fields, field.required = true →
      field.name ∈ KeyedList.keys entries ∨ (RecordValues.find? field.name read).isSome = true) :
    ∃ values, Json.recordOfFields shape read entries = .ok values := by
  induction entries generalizing read with
  | nil =>
      have complete : shape.missing? read = none :=
        missing?_eq_none_iff.mpr fun field member required =>
          (present field member required).resolve_left List.not_mem_nil
      rw [Json.recordOfFields, complete]
      exact ⟨read, rfl⟩
  | cons entry entries ih =>
      obtain ⟨name, value⟩ := entry
      have laterKinds : ∀ field ∈ shape.fields, ∀ value, (field.name, value) ∈ entries →
          ∃ found, value.toFieldValue field.kind = .ok found :=
        fun field member value among => kinds field member value (List.mem_cons_of_mem _ among)
      rw [Json.recordOfFields]
      cases known : shape.field? name with
      | none =>
          refine ih laterKinds fun field member required => ?_
          rcases present field member required with among | read
          · rcases List.mem_cons.mp among with rfl | later
            · rw [field?_of_mem names member] at known
              cases known
            · exact .inl later
          · exact .inr read
      | some field =>
          obtain ⟨among, rfl⟩ := field?_eq_some known
          obtain ⟨found, holds⟩ := kinds field among value List.mem_cons_self
          simp only [holds]
          refine ih laterKinds fun other member required => ?_
          rcases present other member required with among | read
          · rcases List.mem_cons.mp among with same | later
            · rw [RecordValues.find?_cons, if_pos same]
              exact .inr rfl
            · exact .inl later
          · exact .inr (RecordValues.isSome_find?_cons read _)

theorem finds_of_recordOfFields (names : (shape.fields.map RecordField.name).Nodup)
    (distinct : (KeyedList.keys entries).Nodup)
    (reads : Json.recordOfFields shape [] entries = .ok values) (member : field ∈ shape.fields) :
    field.Finds entries (RecordValues.find? field.name values) := by
  obtain ⟨value, found, under, holds, read⟩ | ⟨missing, unread, present⟩ :=
    find?_of_recordOfFields names distinct reads member
  · rw [read]
    exact .present under holds
  · have nothing : RecordValues.find? field.name values = none := unread
    rw [nothing] at present ⊢
    exact .absent missing (Bool.eq_false_iff.mpr fun required => nomatch present required)

/-- An object is a record if each field of the shape can do with what the object has for it. -/
theorem exists_recordOfFields_iff (names : (shape.fields.map RecordField.name).Nodup)
    (distinct : (KeyedList.keys entries).Nodup) :
    (∃ values, Json.recordOfFields shape [] entries = .ok values) ↔
      ∀ field ∈ shape.fields, ∃ found, field.Finds entries found := by
  constructor
  · rintro ⟨values, reads⟩ field member
    exact ⟨_, finds_of_recordOfFields names distinct reads member⟩
  · intro finds
    refine exists_recordOfFields names ?_ ?_
    · intro field member value among
      have under := KeyedList.get?_of_mem distinct among
      obtain ⟨_, missing | ⟨there, holds⟩⟩ := finds field member
      · rw [under] at missing
        cases missing
      · rw [under] at there
        cases there
        exact ⟨_, holds⟩
    · intro field member required
      obtain ⟨_, ⟨missing, optional⟩ | ⟨there, holds⟩⟩ := finds field member
      · rw [required] at optional
        cases optional
      · exact .inl (List.mem_map_of_mem (KeyedList.mem_of_get? there))

end RecordShape

end PluginHost
