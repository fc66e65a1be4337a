import PluginHost.Proofs.Json.Tokens
import PluginHost.Proofs.Text.Blank

/-!
# What a JSON text spells

A stretch of a text spells a value, or the items of an array or the fields of an object from some
place on.  Reading gives what is spelled, and everything that is spelled is read.  The fields of an
object are spelled in an order and may repeat a key, which the value that is read does not show.
-/

namespace PluginHost

open Text

namespace JsonReader

/-- A stretch of a text. -/
inductive Stretch where
  | value (value : Json)
  /-- The items of an array after its opening bracket, or after one or more of them. -/
  | items (isFirst : Bool) (items : List Json)
  /-- The fields of an object after its opening brace, or after one or more of them. -/
  | fields (isFirst : Bool) (entries : List (String × Json))

/-- A value without parts at the front of a stream that starts with no separator. -/
inductive SpellsScalar : List Symbol → Json → List Symbol → Prop where
  | null {stream rest : List Symbol} (reads : word ['u', 'l', 'l'] stream = .ok rest) :
      SpellsScalar (some 'n' :: stream) .null rest
  | true {stream rest : List Symbol} (reads : word ['r', 'u', 'e'] stream = .ok rest) :
      SpellsScalar (some 't' :: stream) (.bool true) rest
  | false {stream rest : List Symbol} (reads : word ['a', 'l', 's', 'e'] stream = .ok rest) :
      SpellsScalar (some 'f' :: stream) (.bool false) rest
  | negative {stream rest : List Symbol} {found : JsonNumber}
      (reads : number true stream = .ok (found, rest)) :
      SpellsScalar (some '-' :: stream) (.number found) rest
  | string {stream rest : List Symbol} {found : String}
      (reads : string stream = .ok (found, rest)) :
      SpellsScalar (some '"' :: stream) (.string found) rest
  | unsigned {stream rest : List Symbol} {c : Char} {found : JsonNumber}
      (digit : c.isDigit = .true) (reads : number .false (some c :: stream) = .ok (found, rest)) :
      SpellsScalar (some c :: stream) (.number found) rest

/-- The next item of an array stands ahead, after a comma unless it is the first one. -/
inductive ItemAhead : Bool → List Symbol → List Symbol → Prop where
  | first {stream rest : List Symbol} {symbol : Symbol}
      (ahead : skipSeparators stream = symbol :: rest) (notClosed : symbol ≠ some ']') :
      ItemAhead true stream (symbol :: rest)
  | later {stream more rest : List Symbol} {symbol : Symbol}
      (comma : skipSeparators stream = some ',' :: more)
      (ahead : skipSeparators more = symbol :: rest) (notClosed : symbol ≠ some ']') :
      ItemAhead false stream (symbol :: rest)

/-- The next key of an object stands ahead, from its opening quote on, after a comma unless it is
the first one. -/
inductive FieldAhead : Bool → List Symbol → List Symbol → Prop where
  | first {stream start : List Symbol} (quote : skipSeparators stream = some '"' :: start) :
      FieldAhead true stream start
  | later {stream more start : List Symbol} (comma : skipSeparators stream = some ',' :: more)
      (quote : skipSeparators more = some '"' :: start) : FieldAhead false stream start

/-- A stretch of a text at the front of a stream and what is left after it.  Arrays and objects
nest to below a depth. -/
inductive Spells : Nat → Stretch → List Symbol → List Symbol → Prop where
  | scalar {depth : Nat} {value : Json} {stream rest : List Symbol}
      (scalar : SpellsScalar (skipSeparators stream) value rest) :
      Spells depth (.value value) stream rest
  | array {depth : Nat} {items : List Json} {stream inner rest : List Symbol}
      (opens : skipSeparators stream = some '[' :: inner) (deep : 0 < depth)
      (inside : Spells depth (.items true items) inner rest) :
      Spells (depth + 1) (.value (.array items)) stream rest
  | object {depth : Nat} {entries : List (String × Json)} {stream inner rest : List Symbol}
      (opens : skipSeparators stream = some '\x7b' :: inner) (deep : 0 < depth)
      (inside : Spells depth (.fields true entries) inner rest) :
      Spells (depth + 1) (.value (.ofFields entries)) stream rest
  | noItem {depth : Nat} {isFirst : Bool} {stream rest : List Symbol}
      (closes : skipSeparators stream = some ']' :: rest) :
      Spells depth (.items isFirst []) stream rest
  | item {depth : Nat} {isFirst : Bool} {item : Json} {items : List Json}
      {stream start behind rest : List Symbol} (ahead : ItemAhead isFirst stream start)
      (first : Spells depth (.value item) start behind)
      (others : Spells depth (.items false items) behind rest) :
      Spells depth (.items isFirst (item :: items)) stream rest
  | noField {depth : Nat} {isFirst : Bool} {stream rest : List Symbol}
      (closes : skipSeparators stream = some '\x7d' :: rest) :
      Spells depth (.fields isFirst []) stream rest
  | field {depth : Nat} {isFirst : Bool} {name : String} {value : Json}
      {entries : List (String × Json)} {stream start behindKey behind rest : List Symbol}
      (ahead : FieldAhead isFirst stream start) (keyed : key start = .ok (name, behindKey))
      (first : Spells depth (.value value) behindKey behind)
      (others : Spells depth (.fields false entries) behind rest) :
      Spells depth (.fields isFirst ((name, value) :: entries)) stream rest

variable {stream start rest : List Symbol} {depth fuel : Nat} {isFirst : Bool} {found : Json}

/-! ### From one item to the next -/

theorem nextItem_eq_closed_iff :
    nextItem isFirst stream = .ok (.closed rest) ↔ skipSeparators stream = some ']' :: rest := by
  constructor
  · intro goesOn
    unfold nextItem at goesOn
    split at goesOn
    · cases goesOn
    · next closes =>
        cases goesOn
        exact closes
    · split at goesOn
      · cases goesOn
      · split at goesOn <;> cases goesOn
    · split at goesOn <;> cases goesOn
  · intro closes
    unfold nextItem
    rw [closes]
    rfl

theorem nextItem_eq_next_iff :
    nextItem isFirst stream = .ok (.next start) ↔ ItemAhead isFirst stream start := by
  constructor
  · intro goesOn
    unfold nextItem at goesOn
    split at goesOn
    · cases goesOn
    · cases goesOn
    · next more comma =>
        cases isFirst with
        -- A comma before the first item is left to the reader of the item.
        | true =>
            cases goesOn
            exact .first comma (by decide)
        | false =>
            simp only [Bool.false_eq_true, if_false] at goesOn
            split at goesOn
            · cases goesOn
            · cases goesOn
            · next notEmpty notClosed =>
                cases goesOn
                obtain ⟨symbol, rest, ahead⟩ := List.exists_cons_of_ne_nil notEmpty
                rw [ahead]
                exact .later comma ahead fun same => notClosed rest (by rw [ahead, same])
    · next notEmpty notClosed notComma =>
        cases isFirst with
        | true =>
            cases goesOn
            obtain ⟨symbol, rest, ahead⟩ := List.exists_cons_of_ne_nil notEmpty
            rw [ahead]
            exact .first ahead fun same => notClosed rest (by rw [ahead, same])
        | false => cases goesOn
  · intro ahead
    unfold nextItem
    cases ahead with
    | first ahead notClosed =>
        rw [ahead]
        split
        · next none => cases none
        · next closed => cases closed; exact (notClosed rfl).elim
        · next comma => cases comma; rfl
        · rfl
    | later comma ahead notClosed =>
        rw [comma]
        simp only [Bool.false_eq_true, if_false]
        rw [ahead]
        split
        · next none => cases none
        · next closed => cases closed; exact (notClosed rfl).elim
        · rfl

theorem nextField_eq_closed_iff :
    nextField isFirst stream = .ok (.closed rest) ↔
      skipSeparators stream = some '\x7d' :: rest := by
  constructor
  · intro goesOn
    unfold nextField at goesOn
    split at goesOn
    · cases goesOn
    · next closes =>
        cases goesOn
        exact closes
    · split at goesOn <;> cases goesOn
    · split at goesOn
      · cases goesOn
      · split at goesOn <;> cases goesOn
    · cases goesOn
  · intro closes
    unfold nextField
    rw [closes]
    rfl

theorem nextField_eq_next_iff :
    nextField isFirst stream = .ok (.next start) ↔ FieldAhead isFirst stream start := by
  constructor
  · intro goesOn
    unfold nextField at goesOn
    split at goesOn
    · cases goesOn
    · cases goesOn
    · next quote =>
        cases isFirst with
        | true =>
            cases goesOn
            exact .first quote
        | false => cases goesOn
    · next comma =>
        cases isFirst with
        | true => cases goesOn
        | false =>
            simp only [Bool.false_eq_true, if_false] at goesOn
            split at goesOn
            · cases goesOn
            · next quote =>
                cases goesOn
                exact .later comma quote
            · cases goesOn
            · cases goesOn
    · cases goesOn
  · intro ahead
    unfold nextField
    cases ahead with
    | first quote =>
        rw [quote]
        rfl
    | later comma quote =>
        rw [comma]
        simp only [Bool.false_eq_true, if_false]
        rw [quote]
        rfl

theorem ItemAhead.length_le (ahead : ItemAhead isFirst stream start) :
    start.length ≤ stream.length := by
  have bound := length_skipSeparators_le stream
  cases ahead with
  | first ahead _ => rwa [ahead] at bound
  | @later _ more _ _ comma ahead _ =>
      have shorter := length_of_skipSeparators_eq comma
      have further := length_skipSeparators_le more
      rw [ahead] at further
      exact Nat.le_of_lt (Nat.lt_of_le_of_lt further shorter)

theorem FieldAhead.length_lt (ahead : FieldAhead isFirst stream start) :
    start.length < stream.length := by
  cases ahead with
  | first quote => exact length_of_skipSeparators_eq quote
  | later comma quote =>
      exact Nat.lt_trans (length_of_skipSeparators_eq quote) (length_of_skipSeparators_eq comma)

/-! ### How a value opens -/

theorem Spells.fromSeparators (spells : Spells depth (.value found) stream rest) :
    Spells depth (.value found) (skipSeparators stream) rest := by
  cases spells with
  | scalar scalar => exact .scalar (by rwa [skipSeparators_skipSeparators])
  | array opens deep inside => exact .array (by rwa [skipSeparators_skipSeparators]) deep inside
  | object opens deep inside => exact .object (by rwa [skipSeparators_skipSeparators]) deep inside

/-- A value opens with a character that closes no array and is not blank. -/
theorem Spells.exists_opening (spells : Spells depth (.value found) stream rest) :
    ∃ c more, skipSeparators stream = some c :: more ∧ some c ≠ some ']' ∧ isBlank c = false := by
  cases spells with
  | scalar scalar =>
      generalize skipSeparators stream = start at scalar
      cases scalar with
      | @unsigned more _ c _ digit =>
          have alphanumeric : c.isAlphanum = true := by simp [Char.isAlphanum, digit]
          refine ⟨c, more, rfl, ?_, isBlank_eq_false_of_isAlphanum alphanumeric⟩
          exact fun same => ne_of_isDigit digit ']' rfl (Option.some.inj same)
      | _ => exact ⟨_, _, rfl, by decide, by decide⟩
  | array opens => exact ⟨_, _, opens, by decide, by decide⟩
  | object opens => exact ⟨_, _, opens, by decide, by decide⟩

/-! ### Everything that is read is spelled -/

/-- The fields of an object, put one after the other into those that there are. -/
def putOnto (read : JsonFields) (entries : List (String × Json)) : JsonFields :=
  entries.foldl (fun built entry => KeyedList.insert entry.1 entry.2 built) read

/-- With some fuel, what is read is spelled. -/
structure ReadsSpelled (fuel : Nat) : Prop where
  value : ∀ {depth stream found rest}, JsonReader.value fuel depth stream = .ok (found, rest) →
    Spells depth (.value found) stream rest
  items : ∀ {depth isFirst read stream found rest},
    JsonReader.items fuel depth isFirst read stream = .ok (found, rest) →
      ∃ more, found = .array (read.reverse ++ more) ∧ Spells depth (.items isFirst more) stream rest
  fields : ∀ {depth isFirst read stream found rest},
    JsonReader.fields fuel depth isFirst read stream = .ok (found, rest) →
      ∃ more, found = .object (putOnto read more) ∧ Spells depth (.fields isFirst more) stream rest

theorem readsSpelled_zero : ReadsSpelled 0 := by
  constructor <;> intros <;> simp_all [value, items, fields, faultHere]

theorem value_succ (ih : ReadsSpelled fuel)
    (reads : value (fuel + 1) depth stream = .ok (found, rest)) :
    Spells depth (.value found) stream rest := by
  unfold value at reads
  split at reads
  · cases reads
  · next opens =>
      obtain ⟨after, read, same⟩ := exists_of_map_eq_ok reads
      cases same
      exact .scalar (opens ▸ .null read)
  · next opens =>
      obtain ⟨after, read, same⟩ := exists_of_map_eq_ok reads
      cases same
      exact .scalar (opens ▸ .true read)
  · next opens =>
      obtain ⟨after, read, same⟩ := exists_of_map_eq_ok reads
      cases same
      exact .scalar (opens ▸ .false read)
  · next opens =>
      obtain ⟨after, read, same⟩ := exists_of_map_eq_ok reads
      cases same
      exact .scalar (opens ▸ .negative read)
  · next opens =>
      obtain ⟨after, read, same⟩ := exists_of_map_eq_ok reads
      cases same
      exact .scalar (opens ▸ .string read)
  · next opens =>
      split at reads
      · cases reads
      · next deep =>
          obtain ⟨depth, rfl⟩ := Nat.exists_eq_add_of_lt (Nat.not_le.mp deep)
          obtain ⟨more, rfl, inside⟩ := ih.items reads
          exact .array opens (by omega) inside
  · next opens =>
      split at reads
      · cases reads
      · next deep =>
          obtain ⟨depth, rfl⟩ := Nat.exists_eq_add_of_lt (Nat.not_le.mp deep)
          obtain ⟨more, rfl, inside⟩ := ih.fields reads
          exact .object opens (by omega) inside
  · split at reads
    · next digit =>
        obtain ⟨after, read, same⟩ := exists_of_map_eq_ok reads
        cases same
        obtain ⟨⟨value, more⟩, next⟩ := Option.isSome_iff_exists.mp digit
        obtain ⟨c, opens, isDigit⟩ := nextDigit?_eq_some next
        rw [opens] at read
        exact .scalar (opens ▸ .unsigned isDigit read)
    · cases reads

theorem items_succ {read : List Json} (ih : ReadsSpelled fuel)
    (reads : items (fuel + 1) depth isFirst read stream = .ok (found, rest)) :
    ∃ more, found = .array (read.reverse ++ more) ∧
      Spells depth (.items isFirst more) stream rest := by
  unfold items at reads
  split at reads
  · cases reads
  · next closes =>
      cases reads
      exact ⟨[], by rw [List.append_nil], .noItem (nextItem_eq_closed_iff.mp closes)⟩
  · next goesOn =>
      split at reads
      · cases reads
      · next item behind first =>
          obtain ⟨more, rfl, others⟩ := ih.items reads
          exact ⟨item :: more, by simp,
            .item (nextItem_eq_next_iff.mp goesOn) (ih.value first) others⟩

theorem fields_succ {read : JsonFields} (ih : ReadsSpelled fuel)
    (reads : fields (fuel + 1) depth isFirst read stream = .ok (found, rest)) :
    ∃ more, found = .object (putOnto read more) ∧
      Spells depth (.fields isFirst more) stream rest := by
  unfold fields at reads
  split at reads
  · cases reads
  · next closes =>
      cases reads
      exact ⟨[], rfl, .noField (nextField_eq_closed_iff.mp closes)⟩
  · next goesOn =>
      split at reads
      · cases reads
      · next name behindKey keyed =>
          split at reads
          · cases reads
          · next value behind first =>
              obtain ⟨more, rfl, others⟩ := ih.fields reads
              exact ⟨(name, value) :: more, rfl,
                .field (nextField_eq_next_iff.mp goesOn) keyed (ih.value first) others⟩

theorem readsSpelled (fuel : Nat) : ReadsSpelled fuel := by
  -- Every part of a stretch is read with one step of the fuel less, so that one induction does.
  induction fuel with
  | zero => exact readsSpelled_zero
  | succ fuel ih => exact ⟨value_succ ih, items_succ ih, fields_succ ih⟩

/-! ### Everything that is spelled is read -/

theorem length_lt_of_spellsScalar {value : Json} (scalar : SpellsScalar stream value rest) :
    rest.length < stream.length := by
  cases scalar with
  | null reads => exact Nat.lt_succ_of_le (length_le_of_word reads)
  | true reads => exact Nat.lt_succ_of_le (length_le_of_word reads)
  | false reads => exact Nat.lt_succ_of_le (length_le_of_word reads)
  | negative reads => exact Nat.lt_succ_of_lt (length_lt_of_number reads)
  | string reads => exact Nat.lt_succ_of_lt (length_lt_of_string reads)
  | unsigned digit reads => exact length_lt_of_number reads

/-- Every stretch takes a symbol at least. -/
theorem Spells.length_lt {stretch : Stretch} (spells : Spells depth stretch stream rest) :
    rest.length < stream.length := by
  induction spells with
  | scalar scalar =>
      exact Nat.lt_of_lt_of_le (length_lt_of_spellsScalar scalar) (length_skipSeparators_le _)
  | array opens _ _ ih => exact Nat.lt_trans ih (length_of_skipSeparators_eq opens)
  | object opens _ _ ih => exact Nat.lt_trans ih (length_of_skipSeparators_eq opens)
  | noItem closes => exact length_of_skipSeparators_eq closes
  | item ahead _ _ first others =>
      exact Nat.lt_of_lt_of_le (Nat.lt_trans others first) ahead.length_le
  | noField closes => exact length_of_skipSeparators_eq closes
  | field ahead keyed _ _ first others =>
      have behindKey := length_lt_of_key keyed
      exact Nat.lt_trans (Nat.lt_trans others first) (Nat.lt_trans behindKey ahead.length_lt)

/-- A stretch is read, with any fuel that suffices for its symbols. -/
def Stretch.IsRead (depth : Nat) (stream rest : List Symbol) : Stretch → Prop
  | .value found => ∀ fuel, 2 * stream.length + 1 ≤ fuel →
      JsonReader.value fuel depth stream = .ok (found, rest)
  | .items isFirst more => ∀ fuel read, 2 * stream.length + 2 ≤ fuel →
      JsonReader.items fuel depth isFirst read stream = .ok (.array (read.reverse ++ more), rest)
  | .fields isFirst more => ∀ fuel read, 2 * stream.length + 2 ≤ fuel →
      JsonReader.fields fuel depth isFirst read stream = .ok (.object (putOnto read more), rest)

theorem value_of_spellsScalar (scalar : SpellsScalar (skipSeparators stream) found rest)
    (fuel : Nat) : value (fuel + 1) depth stream = .ok (found, rest) := by
  unfold value
  generalize skipSeparators stream = start at scalar
  cases scalar with
  | null reads => exact congrArg (Except.map _) reads
  | true reads => exact congrArg (Except.map _) reads
  | false reads => exact congrArg (Except.map _) reads
  | negative reads => exact congrArg (Except.map _) reads
  | string reads => exact congrArg (Except.map _) reads
  | @unsigned more _ c _ digit reads =>
      have next := isSome_nextDigit?_of_digit digit more
      have apart := ne_of_isDigit digit
      simp [apart 'n' rfl, apart 't' rfl, apart 'f' rfl, apart '-' rfl, apart '"' rfl,
        apart '[' rfl, apart '\x7b' rfl, next, reads]
      rfl

theorem value_of_array {inner : List Symbol} (opens : skipSeparators stream = some '[' :: inner)
    (deep : 0 < depth) (fuel : Nat) :
    value (fuel + 1) (depth + 1) stream = items fuel depth true [] inner := by
  unfold value
  rw [opens]
  exact if_neg (by omega)

theorem value_of_object {inner : List Symbol}
    (opens : skipSeparators stream = some '\x7b' :: inner) (deep : 0 < depth) (fuel : Nat) :
    value (fuel + 1) (depth + 1) stream = fields fuel depth true [] inner := by
  unfold value
  rw [opens]
  exact if_neg (by omega)

theorem Spells.isRead {stretch : Stretch} (spells : Spells depth stretch stream rest) :
    stretch.IsRead depth stream rest := by
  -- An item may start where its list does: two steps for each symbol, and one more for the list.
  induction spells with
  | scalar scalar =>
      intro fuel enough
      obtain ⟨extra, rfl⟩ := Nat.exists_eq_add_of_lt enough
      exact value_of_spellsScalar scalar _
  | array opens deep _ ih =>
      intro fuel enough
      have shorter := length_of_skipSeparators_eq opens
      obtain ⟨extra, rfl⟩ := Nat.exists_eq_add_of_lt enough
      rw [value_of_array opens deep]
      exact ih _ _ (by omega)
  | object opens deep _ ih =>
      intro fuel enough
      have shorter := length_of_skipSeparators_eq opens
      obtain ⟨extra, rfl⟩ := Nat.exists_eq_add_of_lt enough
      rw [value_of_object opens deep]
      exact ih _ _ (by omega)
  | noItem closes =>
      intro fuel read enough
      obtain ⟨extra, rfl⟩ := Nat.exists_eq_add_of_lt enough
      unfold items
      rw [nextItem_eq_closed_iff.mpr closes, List.append_nil]
  | item ahead first _ firstRead othersRead =>
      intro fuel read enough
      have start := ahead.length_le
      have shorter := first.length_lt
      obtain ⟨extra, rfl⟩ := Nat.exists_eq_add_of_lt enough
      unfold items
      rw [nextItem_eq_next_iff.mpr ahead]
      simp only
      rw [firstRead _ (by omega)]
      simp only
      rw [othersRead _ _ (by omega), List.reverse_cons, List.append_assoc, List.singleton_append]
  | noField closes =>
      intro fuel read enough
      obtain ⟨extra, rfl⟩ := Nat.exists_eq_add_of_lt enough
      unfold fields
      rw [nextField_eq_closed_iff.mpr closes]
      rfl
  | field ahead keyed first _ firstRead othersRead =>
      intro fuel read enough
      have start := ahead.length_lt
      have behindKey := length_lt_of_key keyed
      have shorter := first.length_lt
      obtain ⟨extra, rfl⟩ := Nat.exists_eq_add_of_lt enough
      unfold fields
      rw [nextField_eq_next_iff.mpr ahead]
      simp only
      rw [keyed]
      simp only
      rw [firstRead _ (by omega)]
      exact othersRead _ _ (by omega)

/-- With the fuel that is given to it, reading gives what is spelled and nothing else. -/
theorem value_eq_ok_iff :
    value (fuelFor stream) depth stream = .ok (found, rest) ↔
      Spells depth (.value found) stream rest :=
  ⟨(readsSpelled _).value, fun spells => spells.isRead _ (Nat.le_succ _)⟩

theorem finish_eq_ok_iff {α : Type} {result value : α} :
    finish value rest = .ok result ↔ value = result ∧ skipSeparators rest = [] := by
  unfold finish
  split
  · next ended => simp [ended]
  · next notEnded => exact ⟨nofun, fun ⟨_, ended⟩ => (notEnded ended).elim⟩

end JsonReader

open JsonReader

variable {text : String} {entries : List (String × Json)}

namespace Json

theorem parse_eq_ok_iff {value : Json} :
    parse text = .ok value ↔ ∃ rest, Spells depthLimit (.value value) (symbolsOf text) rest ∧
      skipSeparators rest = [] := by
  rw [parse, mapError_eq_ok_iff, read, readValue]
  constructor
  · intro reads
    split at reads
    · next read =>
        obtain ⟨rfl, ended⟩ := finish_eq_ok_iff.mp reads
        exact ⟨_, value_eq_ok_iff.mp read, ended⟩
    · cases reads
  · rintro ⟨rest, spells, ended⟩
    rw [value_eq_ok_iff.mpr spells]
    exact finish_eq_ok_iff.mpr ⟨rfl, ended⟩

/-- Blanks spell nothing. -/
theorem isBlankText_eq_false_of_parse {value : Json} (reads : parse text = .ok value) :
    isBlankText text = false := by
  obtain ⟨rest, spells, -⟩ := parse_eq_ok_iff.mp reads
  obtain ⟨c, more, opens, -, notBlank⟩ := spells.exists_opening
  have among : some c ∈ symbolsOf text :=
    (skipSeparators_suffix _).subset (opens ▸ List.mem_cons_self)
  have member : c ∈ text.toList := by simpa [symbolsOf] using among
  rw [isBlankText, List.all_eq_false]
  exact ⟨c, member, by simp [notBlank]⟩

/-- A text spells an object with fields that are written in this order. -/
structure SpellsFields (text : String) (entries : List (String × Json)) : Prop where
  spelled : ∃ inner rest, skipSeparators (symbolsOf text) = some '\x7b' :: inner ∧
    Spells (depthLimit - 1) (.fields true entries) inner rest ∧ skipSeparators rest = []

theorem SpellsFields.parse_eq (spells : SpellsFields text entries) :
    parse text = .ok (.ofFields entries) := by
  obtain ⟨inner, rest, opens, inside, ended⟩ := spells.spelled
  exact parse_eq_ok_iff.mpr ⟨rest, .object opens (by decide) inside, ended⟩

/-- Every text that is read as an object spells its fields in some order. -/
theorem exists_spellsFields {fields : JsonFields} (reads : parse text = .ok (.object fields)) :
    ∃ entries, SpellsFields text entries ∧ fields = KeyedList.ofList entries := by
  obtain ⟨rest, spells, ended⟩ := parse_eq_ok_iff.mp reads
  have limit : depthLimit = depthLimit - 1 + 1 := rfl
  generalize found : object fields = value at spells
  rw [limit] at spells
  cases spells with
  | scalar scalar =>
      subst found
      generalize skipSeparators (symbolsOf text) = start at scalar
      cases scalar
  | array opens deep inside => cases found
  | object opens deep inside =>
      exact ⟨_, ⟨_, rest, opens, inside, ended⟩, Json.object.inj found⟩

/-- A text spells an object that has no key twice. -/
structure SpellsOnce (text : String) (fields : JsonFields) : Prop where
  spelled : ∃ entries, SpellsFields text entries ∧ (KeyedList.keys entries).Nodup ∧
    fields = KeyedList.ofList entries

theorem SpellsOnce.parse_eq {fields : JsonFields} (spells : SpellsOnce text fields) :
    parse text = .ok (.object fields) := by
  obtain ⟨entries, spelled, -, rfl⟩ := spells.spelled
  exact spelled.parse_eq

end Json

end PluginHost
