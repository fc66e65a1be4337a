import PluginHost.Proofs.Json.PassingOver
import PluginHost.Proofs.Json.RecordFields

/-!
# Records that are spelled

A record that is taken from a text is the record that the spelled value holds: its two readers
agree on every object that has each key once.
-/

namespace PluginHost

open Text

namespace JsonReader

variable {stream rest after : List Symbol} {depth : Nat} {value : Json}

/-! ### What a value opens with -/

theorem Spells.toScalar (spells : Spells depth (.value value) stream rest) {c : Char}
    {more : List Symbol} (opens : skipSeparators stream = some c :: more) (notArray : c ≠ '[')
    (notObject : c ≠ '\x7b') : SpellsScalar (some c :: more) value rest := by
  cases spells with
  | scalar scalar => rwa [opens] at scalar
  | array bracket =>
      rw [opens] at bracket
      cases bracket
      exact (notArray rfl).elim
  | object brace =>
      rw [opens] at brace
      cases brace
      exact (notObject rfl).elim

theorem Spells.string_of_quote (spells : Spells depth (.value value) stream rest)
    {more : List Symbol} (opens : skipSeparators stream = some '"' :: more) :
    ∃ text, value = .string text ∧ string more = .ok (text, rest) := by
  cases spells.toScalar opens (by decide) (by decide) with
  | string reads => exact ⟨_, rfl, reads⟩
  | unsigned digit => cases digit

theorem Spells.quote_of_string {text : String}
    (spells : Spells depth (.value (.string text)) stream rest) :
    ∃ more, skipSeparators stream = some '"' :: more ∧ string more = .ok (text, rest) := by
  cases spells with
  | scalar scalar =>
      generalize skipSeparators stream = start at scalar
      cases scalar with
      | string reads => exact ⟨_, rfl, reads⟩

theorem Spells.null_of_letter (spells : Spells depth (.value value) stream rest)
    {more : List Symbol} (opens : skipSeparators stream = some 'n' :: more) :
    value = .null ∧ word ['u', 'l', 'l'] more = .ok rest := by
  cases spells.toScalar opens (by decide) (by decide) with
  | null reads => exact ⟨rfl, reads⟩
  | unsigned digit => cases digit

theorem Spells.letter_of_null (spells : Spells depth (.value .null) stream rest) :
    ∃ more, skipSeparators stream = some 'n' :: more ∧ word ['u', 'l', 'l'] more = .ok rest := by
  cases spells with
  | scalar scalar =>
      generalize skipSeparators stream = start at scalar
      cases scalar with
      | null reads => exact ⟨_, rfl, reads⟩

theorem Spells.array_of_bracket (spells : Spells depth (.value value) stream rest)
    {inner : List Symbol} (opens : skipSeparators stream = some '[' :: inner) :
    ∃ deeper items, value = .array items ∧ Spells deeper (.items true items) inner rest := by
  cases spells with
  | scalar scalar =>
      rw [opens] at scalar
      cases scalar with
      | unsigned digit => cases digit
  | array bracket _ inside =>
      rw [opens] at bracket
      cases bracket
      exact ⟨_, _, rfl, inside⟩
  | object brace =>
      rw [opens] at brace
      cases brace

theorem Spells.bracket_of_array {items : List Json}
    (spells : Spells depth (.value (.array items)) stream rest) :
    ∃ inner, skipSeparators stream = some '[' :: inner := by
  cases spells with
  | scalar scalar =>
      generalize skipSeparators stream = start at scalar
      cases scalar
  | array bracket => exact ⟨_, bracket⟩

/-! ### Values of a kind in a text -/

theorem text_eq_ok_iff (spells : Spells depth (.value value) stream rest) {found : String} :
    text stream = .ok (found, after) ↔ after = rest ∧ value.toText = .ok found := by
  rw [Json.toText_eq_ok_iff]
  constructor
  · intro reads
    unfold text at reads
    split at reads
    · cases reads
    · next opens =>
        obtain ⟨spelled, rfl, same⟩ := spells.string_of_quote opens
        rw [same] at reads
        cases reads
        exact ⟨rfl, rfl⟩
    · exact (mismatch_ne_ok _ _ _ reads).elim
  · rintro ⟨rfl, rfl⟩
    obtain ⟨more, opens, reads⟩ := spells.quote_of_string
    unfold text
    rw [opens]
    exact reads

theorem text_skipSeparators (stream : List Symbol) :
    text (skipSeparators stream) = text stream := by
  rw [text, text, skipSeparators_skipSeparators]

theorem optionalText_eq_ok_iff (spells : Spells depth (.value value) stream rest)
    {found : Option String} :
    optionalText stream = .ok (found, after) ↔
      after = rest ∧ value.toOptionalText = .ok found := by
  unfold optionalText
  split
  · next more opens =>
      obtain ⟨rfl, reads⟩ := spells.null_of_letter opens
      simp [reads, Except.map, Json.toOptionalText, and_comm, eq_comm]
  · next notLetter =>
      have sameText : value.toOptionalText = value.toText.map some := by
        unfold Json.toOptionalText
        split
        · obtain ⟨more, opens, -⟩ := spells.letter_of_null
          exact (notLetter more opens).elim
        · rfl
      simp only [sameText, text_skipSeparators, map_eq_ok_iff, Prod.exists, Prod.mk.injEq,
        text_eq_ok_iff spells]
      constructor
      · rintro ⟨text, -, ⟨rfl, reads⟩, same, rfl⟩
        exact ⟨rfl, text, reads, same⟩
      · rintro ⟨rfl, text, reads, same⟩
        exact ⟨text, _, ⟨rfl, reads⟩, same, rfl⟩

theorem textsOnto_eq_ok_iff {fuel : Nat} {isFirst : Bool} {items : List Json}
    (spells : Spells depth (.items isFirst items) stream rest) (fits : stream.length < fuel)
    (read : List String) {found : List String} :
    textsOnto fuel isFirst read stream = .ok (found, after) ↔
      after = rest ∧ ∃ texts, items.mapM Json.toText = .ok texts ∧
        found = read.reverse ++ texts := by
  induction items generalizing fuel isFirst stream read with
  | nil =>
      obtain ⟨extra, rfl⟩ := Nat.exists_eq_add_of_lt fits
      cases spells with
      | noItem closes =>
          unfold textsOnto
          rw [nextItem_eq_closed_iff.mpr closes]
          simp [pure, Except.pure, and_comm, eq_comm]
  | cons item items ih =>
      obtain ⟨extra, rfl⟩ := Nat.exists_eq_add_of_lt fits
      cases spells with
      | item ahead first others =>
          have start := ahead.length_le
          have behind := first.length_lt
          unfold textsOnto
          rw [nextItem_eq_next_iff.mpr ahead]
          simp only [List.mapM_cons, bind_eq_ok_iff, pure, Except.pure, Except.ok.injEq]
          constructor
          · intro reads
            split at reads
            · cases reads
            · next text here read =>
                obtain ⟨rfl, text⟩ := (text_eq_ok_iff first).mp read
                obtain ⟨rfl, texts, same, rfl⟩ := (ih others (by omega) _).mp reads
                refine ⟨rfl, _, ⟨_, text, texts, same, rfl⟩, by simp⟩
          · rintro ⟨rfl, _, ⟨_, text, texts, same, rfl⟩, rfl⟩
            rw [(text_eq_ok_iff first).mpr ⟨rfl, text⟩]
            exact (ih others (by omega) _).mpr ⟨rfl, texts, same, by simp⟩

theorem textList_eq_ok_iff (spells : Spells depth (.value value) stream rest)
    {found : List String} :
    textList stream = .ok (found, after) ↔ after = rest ∧ value.toTextList = .ok found := by
  constructor
  · intro reads
    unfold textList at reads
    split at reads
    · cases reads
    · next opens =>
        obtain ⟨deeper, items, rfl, inside⟩ := spells.array_of_bracket opens
        obtain ⟨rfl, texts, same, rfl⟩ :=
          (textsOnto_eq_ok_iff inside (Nat.lt_succ_self _) []).mp reads
        exact ⟨rfl, same⟩
    · exact (mismatch_ne_ok _ _ _ reads).elim
  · rintro ⟨rfl, same⟩
    obtain rfl := Json.toTextList_eq_ok_iff.mp same
    obtain ⟨inner, opens⟩ := spells.bracket_of_array
    obtain ⟨deeper, items, spelled, inside⟩ := spells.array_of_bracket opens
    obtain rfl := Json.array.inj spelled
    unfold textList
    rw [opens]
    exact (textsOnto_eq_ok_iff inside (Nat.lt_succ_self _) []).mpr ⟨rfl, found, same, rfl⟩

/-- What is read for a field of a record is what the value holds. -/
theorem fieldValue_eq_ok_iff {kind : FieldKind} {found : FieldValue}
    (spells : Spells (depthLimit - 1) (.value value) stream rest) :
    fieldValue kind stream = .ok (found, after) ↔
      after = rest ∧ value.toFieldValue kind = .ok found := by
  have mapped {α : Type} {reads : Step α} {holds : Except ShapeProblem α} {hold : α → FieldValue}
      (agree : ∀ {read behind}, reads = .ok (read, behind) ↔ behind = rest ∧ holds = .ok read) :
      reads.map (fun (read, behind) => (hold read, behind)) = .ok (found, after) ↔
        after = rest ∧ holds.map hold = .ok found := by
    simp only [map_eq_ok_iff, Prod.exists, Prod.mk.injEq, agree]
    constructor
    · rintro ⟨read, -, ⟨rfl, same⟩, rfl, rfl⟩
      exact ⟨rfl, read, same, rfl⟩
    · rintro ⟨rfl, read, same, rfl⟩
      exact ⟨read, _, ⟨rfl, same⟩, rfl, rfl⟩
  cases kind with
  | text => exact mapped (text_eq_ok_iff spells)
  | optionalText => exact mapped (optionalText_eq_ok_iff spells)
  | textList => exact mapped (textList_eq_ok_iff spells)
  | value =>
      rw [fieldValue, value_eq_ok_iff.mpr spells]
      simp [Except.map, Json.toFieldValue, and_comm, eq_comm]

/-! ### Records -/

variable {shape : RecordShape} {values : RecordValues}

/-- The fields of an object that are spelled give the record that they are read as, if no field is
there twice. -/
theorem recordFields_eq_ok_iff {fuel : Nat} {isFirst : Bool} {entries : List (String × Json)}
    (spells : Spells (depthLimit - 1) (.fields isFirst entries) stream rest)
    (fits : stream.length < fuel) {read : RecordValues}
    (distinct : (KeyedList.keys entries).Nodup)
    (unread : ∀ name ∈ KeyedList.keys entries, RecordValues.find? name read = none) :
    recordFields shape fuel isFirst read stream = .ok (values, after) ↔
      after = rest ∧ Json.recordOfFields shape read entries = .ok values := by
  induction entries generalizing fuel isFirst stream read with
  | nil =>
      obtain ⟨extra, rfl⟩ := Nat.exists_eq_add_of_lt fits
      cases spells with
      | noField closes =>
          unfold recordFields
          rw [nextField_eq_closed_iff.mpr closes, Json.recordOfFields]
          cases shape.missing? read with
          | some name => simp [shapeFault, faultHere]
          | none => simp [and_comm, eq_comm]
  | cons entry entries ih =>
      obtain ⟨extra, rfl⟩ := Nat.exists_eq_add_of_lt fits
      cases spells with
      | @field _ _ name value _ _ start behindKey behind _ ahead keyed first others =>
          have shorterStart := ahead.length_lt
          have shorterKey := length_lt_of_key keyed
          have shorterValue := first.length_lt
          obtain ⟨newName, laterDistinct⟩ := List.nodup_cons.mp distinct
          have later := List.forall_mem_cons.mp unread
          obtain ⟨afterName, string, colon⟩ := key_eq_ok_iff.mp keyed
          unfold recordFields
          rw [nextField_eq_next_iff.mpr ahead, Json.recordOfFields]
          simp only [string, colon]
          cases shape.field? name with
          | none =>
              simp only [Except.bind, skipValue_of_spells first]
              exact ih others (by omega) laterDistinct later.2
          | some field =>
              -- No name comes twice, so that those that follow have not been read yet.
              have stillUnread (found : FieldValue) : ∀ other ∈ KeyedList.keys entries,
                  RecordValues.find? other ((name, found) :: read) = none := by
                intro other among
                rw [RecordValues.find?_cons, if_neg (ne_of_mem_of_not_mem among newName)]
                exact later.2 other among
              simp only [later.1, Option.isSome_none, Bool.false_eq_true, if_false, Except.bind]
              constructor
              · intro reads
                split at reads
                · cases reads
                · next found after read =>
                    obtain ⟨rfl, holds⟩ := (fieldValue_eq_ok_iff first).mp read
                    rw [holds]
                    exact (ih others (by omega) laterDistinct (stillUnread found)).mp reads
              · rintro ⟨rfl, reads⟩
                split at reads
                · cases reads
                · next found holds =>
                    rw [(fieldValue_eq_ok_iff first).mpr ⟨rfl, holds⟩]
                    exact (ih others (by omega) laterDistinct (stillUnread found)).mpr ⟨rfl, reads⟩

end JsonReader

/-- Reading a record from the text of an object that has no key twice, and taking it from the
object. -/
theorem RecordShape.read_eq_ok_iff {shape : RecordShape} {values : RecordValues} {text : String}
    {entries : List (String × Json)} (spells : Json.SpellsFields text entries)
    (distinct : (KeyedList.keys entries).Nodup) :
    shape.read (symbolsOf text) = .ok values ↔
      Json.recordOfFields shape [] entries = .ok values := by
  obtain ⟨inner, rest, opens, inside, ended⟩ := spells.spelled
  have fields {read : RecordValues} {after : List Symbol} :
      JsonReader.recordFields shape (inner.length + 1) true [] inner = .ok (read, after) ↔
        after = rest ∧ Json.recordOfFields shape [] entries = .ok read :=
    JsonReader.recordFields_eq_ok_iff inside (Nat.lt_succ_self _) distinct fun _ _ => rfl
  have record : JsonReader.record shape (symbolsOf text) =
      JsonReader.recordFields shape (inner.length + 1) true [] inner := by
    unfold JsonReader.record
    rw [opens]
    rfl
  rw [read, record]
  constructor
  · intro reads
    split at reads
    · next read =>
        obtain ⟨rfl, -⟩ := JsonReader.finish_eq_ok_iff.mp reads
        exact (fields.mp read).2
    · cases reads
  · intro holds
    rw [fields.mpr ⟨rfl, holds⟩]
    exact JsonReader.finish_eq_ok_iff.mpr ⟨rfl, ended⟩

namespace RecordShape

variable {shape : RecordShape} {values : RecordValues} {field : RecordField}

theorem exists_read_iff {text : String} {fields : JsonFields}
    (names : (shape.fields.map RecordField.name).Nodup) (spells : Json.SpellsOnce text fields) :
    (∃ values, shape.read (symbolsOf text) = .ok values) ↔
      ∀ field ∈ shape.fields, ∃ found, field.Finds fields found := by
  obtain ⟨entries, spelled, distinct, rfl⟩ := spells.spelled
  simp only [read_eq_ok_iff spelled distinct, exists_recordOfFields_iff names distinct,
    RecordField.finds_ofList_iff distinct]

theorem finds_of_read {text : String} {fields : JsonFields}
    (names : (shape.fields.map RecordField.name).Nodup) (spells : Json.SpellsOnce text fields)
    (reads : shape.read (symbolsOf text) = .ok values) (member : field ∈ shape.fields) :
    field.Finds fields (RecordValues.find? field.name values) := by
  obtain ⟨entries, spelled, distinct, rfl⟩ := spells.spelled
  rw [RecordField.finds_ofList_iff distinct]
  exact finds_of_recordOfFields names distinct ((read_eq_ok_iff spelled distinct).mp reads) member

end RecordShape

end PluginHost
