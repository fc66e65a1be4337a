import PluginHost.Json.Record
import PluginHost.Proofs.Steps

/-!
# What a record that is read holds

Whether a record is written as an object or as an array: what is read of it belongs to fields of
its shape, is of the kind of the field, and leaves no required field out.
-/

namespace PluginHost

open Text

/-- Values that a field of a kind can hold. -/
inductive FieldValue.OfKind : FieldKind → FieldValue → Prop where
  | text (value : String) : OfKind .text (.text value)
  | optionalText (value : Option String) : OfKind .optionalText (.optionalText value)
  | textList (value : List String) : OfKind .textList (.textList value)
  | value (value : Json) : OfKind .value (.value value)

/-- Values that belong to fields of a shape. -/
def RecordShape.Admits (shape : RecordShape) (values : RecordValues) : Prop :=
  ∀ entry ∈ values, ∃ field ∈ shape.fields, field.name = entry.1 ∧ entry.2.OfKind field.kind

/-- Values of a shape in which nothing that is required is missing. -/
structure RecordShape.Describes (shape : RecordShape) (values : RecordValues) : Prop where
  admitted : shape.Admits values
  present : ∀ field ∈ shape.fields, field.required = true →
    (RecordValues.find? field.name values).isSome = true

namespace RecordValues

theorem find?_cons (name : String) (entry : String × FieldValue) (values : RecordValues) :
    find? name (entry :: values) =
      if name = entry.1 then some entry.2 else find? name values := by
  obtain ⟨key, value⟩ := entry
  rw [find?, List.lookup_cons]
  cases same : name == key <;> simp_all [find?]

theorem mem_of_find? {name : String} {value : FieldValue} {values : RecordValues}
    (found : find? name values = some value) : (name, value) ∈ values := by
  induction values with
  | nil => cases found
  | cons entry values ih =>
      rw [find?_cons] at found
      split at found
      · next same =>
          obtain rfl := Option.some.inj found
          subst same
          exact List.mem_cons_self
      · exact List.mem_cons_of_mem _ (ih found)

theorem isSome_find?_cons {name : String} {values : RecordValues}
    (found : (find? name values).isSome = true) (entry : String × FieldValue) :
    (find? name (entry :: values)).isSome = true := by
  rw [find?_cons]
  split
  · rfl
  · exact found

end RecordValues

namespace RecordShape

variable {shape : RecordShape}

theorem admits_nil (shape : RecordShape) : shape.Admits [] :=
  fun _ member => absurd member List.not_mem_nil

theorem Admits.cons {values : RecordValues} (admitted : shape.Admits values)
    {field : RecordField} (member : field ∈ shape.fields) {value : FieldValue}
    (kind : value.OfKind field.kind) : shape.Admits ((field.name, value) :: values) := by
  intro entry among
  rcases List.mem_cons.mp among with rfl | earlier
  · exact ⟨field, member, rfl, kind⟩
  · exact admitted entry earlier

theorem field?_eq_some {name : String} {field : RecordField}
    (found : shape.field? name = some field) : field ∈ shape.fields ∧ field.name = name :=
  ⟨List.mem_of_find?_eq_some found, by simpa using List.find?_some found⟩

theorem present_of_missing? {values : RecordValues} (complete : shape.missing? values = none)
    {field : RecordField} (member : field ∈ shape.fields) (required : field.required = true) :
    (RecordValues.find? field.name values).isSome = true := by
  rw [missing?, Option.map_eq_none_iff, List.find?_eq_none] at complete
  have absent := complete field member
  cases found : RecordValues.find? field.name values with
  | none => simp [required, found] at absent
  | some value => rfl

theorem optional_of_firstMissing? {fields : List RecordField} {position : Nat}
    (complete : firstMissing? fields position = none) {field : RecordField}
    (member : field ∈ fields) : field.required = false := by
  induction fields generalizing position with
  | nil => cases member
  | cons first fields ih =>
      rw [firstMissing?] at complete
      split at complete
      · cases complete
      · next optional =>
          rcases List.mem_cons.mp member with rfl | later
          · exact Bool.eq_false_iff.mpr optional
          · exact ih complete later

end RecordShape

namespace JsonReader

variable {shape : RecordShape} {read values : RecordValues} {stream rest : List Symbol}

theorem ofKind_of_fieldValue {kind : FieldKind} {found : FieldValue}
    (reads : fieldValue kind stream = .ok (found, rest)) : found.OfKind kind := by
  cases kind <;> obtain ⟨⟨value, after⟩, -, same⟩ := exists_of_map_eq_ok reads <;> cases same
  · exact .text value
  · exact .optionalText value
  · exact .textList value
  · exact .value value

/-- What the fields of an object add to what was read before keeps to the shape, and the closing
brace is passed only if nothing is missing. -/
theorem describes_of_recordFields {fuel : Nat} {isFirst : Bool} (admitted : shape.Admits read)
    (reads : recordFields shape fuel isFirst read stream = .ok (values, rest)) :
    shape.Describes values := by
  induction fuel generalizing isFirst read stream with
  | zero => cases reads
  | succ fuel ih =>
      rw [recordFields] at reads
      split at reads
      · cases reads
      · split at reads
        · cases reads
        · next complete =>
            cases reads
            exact ⟨admitted, fun _ => RecordShape.present_of_missing? complete⟩
      · split at reads
        · cases reads
        · simp only at reads
          split at reads
          · split at reads
            · cases reads
            · exact ih admitted reads
          · next field known =>
              obtain ⟨member, rfl⟩ := RecordShape.field?_eq_some known
              split at reads
              · cases reads
              · split at reads
                · cases reads
                -- The value that is added is of the kind of its field.
                · next found =>
                    obtain ⟨_, -, value⟩ := exists_of_bind_eq_ok found
                    exact ih (admitted.cons member (ofKind_of_fieldValue value)) reads

/-- The items of an array stand for the fields in order, so the fields that are left are the ones
that have not been read. -/
theorem describes_of_recordItems {fields : List RecordField} {isFirst : Bool}
    (left : ∀ field ∈ fields, field ∈ shape.fields)
    (others : ∀ field ∈ shape.fields, field ∉ fields →
      (RecordValues.find? field.name read).isSome = true)
    (admitted : shape.Admits read)
    (reads : recordItems shape fields isFirst read stream = .ok (values, rest)) :
    shape.Describes values := by
  induction fields generalizing isFirst read stream with
  | nil =>
      have same : read = values := by
        rw [recordItems] at reads
        split at reads
        · cases reads
        · exact congrArg Prod.fst (Except.ok.inj reads)
        · split at reads <;> cases reads
        · cases reads
      subst same
      exact ⟨admitted, fun field member _ => others field member List.not_mem_nil⟩
  | cons field fields ih =>
      rw [recordItems] at reads
      split at reads
      · cases reads
      · split at reads
        · cases reads
        · next complete =>
            cases reads
            refine ⟨admitted, fun other member required => ?_⟩
            refine others other member fun among => ?_
            rw [RecordShape.optional_of_firstMissing? complete among] at required
            cases required
      · split at reads
        · cases reads
        · next found =>
            have kind := ofKind_of_fieldValue found
            refine ih (fun other member => left other (List.mem_cons_of_mem _ member)) ?_
              (admitted.cons (left field List.mem_cons_self) kind) reads
            intro other member notLeft
            by_cases same : other = field
            · subst same
              rw [RecordValues.find?_cons, if_pos rfl]
              rfl
            · refine RecordValues.isSome_find?_cons (others other member ?_) _
              simp [same, notLeft]

theorem mismatch_ne_ok {α : Type} (expected : String) (stream : List Symbol) (result : α) :
    mismatch expected stream ≠ .ok result := by
  intro succeeds
  -- Words, numbers and strings are read before the fault, the other values are not.
  have fault {β : Type} {step : Except JsonFault β} {what : β → JsonFound}
      {after : β → List Symbol} :
      (step.bind fun found => shapeFault (.invalidType (what found) expected) (after found)) ≠
        .ok result := by
    intro read
    obtain ⟨found, -, unread⟩ := exists_of_bind_eq_ok read
    cases unread
  unfold mismatch at succeeds
  split at succeeds
  · exact fault succeeds
  · exact fault succeeds
  · exact fault succeeds
  · exact fault succeeds
  · exact fault succeeds
  · cases succeeds
  · cases succeeds
  · split at succeeds
    · exact fault succeeds
    · cases succeeds

theorem describes_of_record (reads : record shape stream = .ok (values, rest)) :
    shape.Describes values := by
  rw [record] at reads
  split at reads
  · cases reads
  · exact describes_of_recordItems (fun _ member => member)
      (fun _ member notMember => absurd member notMember) shape.admits_nil reads
  · exact describes_of_recordFields shape.admits_nil reads
  · exact absurd reads (mismatch_ne_ok _ _ _)

end JsonReader

/-- Every record that is read keeps to its shape. -/
theorem RecordShape.read_describes {shape : RecordShape} {stream : List Symbol}
    {values : RecordValues} (reads : shape.read stream = .ok values) : shape.Describes values := by
  rw [read] at reads
  split at reads
  · next found rest reading =>
      have same : found = values := by
        rw [JsonReader.finish] at reads
        split at reads
        · exact Except.ok.inj reads
        · cases reads
      exact same ▸ JsonReader.describes_of_record reading
  · cases reads

end PluginHost
