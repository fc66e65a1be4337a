import PluginHost.Proofs.Json.Grammar

/-!
# Passing over values

Whatever is spelled is passed over, up to the same place, in one go and without a look at its
depth: the arrays and objects that are still open are kept in a list of frames.
-/

namespace PluginHost.JsonReader

open Text

variable {stream rest : List Symbol} {depth : Nat} {isFirst : Bool} {found : Json}

/-- Passing over goes on after a value that stands inside open frames. -/
def skipBehind (fuel : Nat) (frames : List Frame) (rest : List Symbol) :
    Except JsonFault (List Symbol) :=
  if frames.isEmpty then .ok rest else skipAfterItem fuel frames true rest

/-- A stretch is passed over inside open frames, with any fuel that suffices for its symbols, and
what fuel is left suffices for the rest. -/
def Stretch.IsPassed (stream rest : List Symbol) (stretch : Stretch) : Prop :=
  ∀ fuel frames, match stretch with
    | .value _ => 2 * stream.length + 1 ≤ fuel →
        ∃ left, 2 * rest.length + 2 ≤ left ∧
          skipValueIn fuel frames stream = skipBehind left frames rest
    | .items isFirst _ => 2 * stream.length + 2 ≤ fuel →
        ∃ left, 2 * rest.length + 2 ≤ left ∧
          skipAfterItem fuel (.list :: frames) (!isFirst) stream = skipBehind left frames rest
    | .fields isFirst _ => 2 * stream.length + 2 ≤ fuel →
        ∃ left, 2 * rest.length + 2 ≤ left ∧
          skipAfterItem fuel (.object :: frames) (!isFirst) stream = skipBehind left frames rest

theorem skipScalar?_of_spellsScalar (scalar : SpellsScalar stream found rest) :
    skipScalar? stream = some (.ok rest) := by
  cases scalar with
  | null reads => exact congrArg some reads
  | true reads => exact congrArg some reads
  | false reads => exact congrArg some reads
  | negative reads => exact congrArg some (skipNumber_of_number reads)
  | string reads => exact congrArg some (skipString_of_string reads)
  | @unsigned more _ c _ digit reads =>
      have next := isSome_nextDigit?_of_digit digit more
      have apart := ne_of_isDigit digit
      simp [skipScalar?, apart 'n' rfl, apart 't' rfl, apart 'f' rfl, apart '-' rfl,
        apart '"' rfl, next, skipNumber_of_number reads]

theorem skipValueIn_of_spellsScalar (scalar : SpellsScalar (skipSeparators stream) found rest)
    (fuel : Nat) (frames : List Frame) :
    skipValueIn (fuel + 1) frames stream = skipBehind fuel frames rest := by
  have passed := skipScalar?_of_spellsScalar scalar
  unfold skipValueIn
  split
  · next none =>
      rw [none] at scalar
      cases scalar
  · next opens =>
      rw [opens] at scalar
      cases scalar with
      | unsigned digit => cases digit
  · next opens =>
      rw [opens] at scalar
      cases scalar with
      | unsigned digit => cases digit
  · rw [passed]
    rfl

theorem skipValueIn_skipSeparators {fuel : Nat} (positive : 0 < fuel) (frames : List Frame)
    (stream : List Symbol) :
    skipValueIn fuel frames (skipSeparators stream) = skipValueIn fuel frames stream := by
  obtain ⟨fuel, rfl⟩ := Nat.exists_eq_add_of_lt positive
  rw [skipValueIn, skipValueIn, skipSeparators_skipSeparators]

theorem skipKey_skipSeparators (stream : List Symbol) :
    skipKey (skipSeparators stream) = skipKey stream := by
  rw [skipKey, skipKey, skipSeparators_skipSeparators]

theorem skipAfterItem_closes_list (closes : skipSeparators stream = some ']' :: rest)
    (fuel : Nat) (frames : List Frame) (hasItem : Bool) :
    skipAfterItem (fuel + 1) (.list :: frames) hasItem stream = skipBehind fuel frames rest := by
  unfold skipAfterItem
  rw [closes]
  rfl

theorem skipAfterItem_closes_object (closes : skipSeparators stream = some '\x7d' :: rest)
    (fuel : Nat) (frames : List Frame) (hasItem : Bool) :
    skipAfterItem (fuel + 1) (.object :: frames) hasItem stream = skipBehind fuel frames rest := by
  unfold skipAfterItem
  rw [closes]
  rfl

theorem skipAfterItem_item {start : List Symbol} (ahead : ItemAhead isFirst stream start)
    {fuel : Nat} (positive : 0 < fuel) (frames : List Frame) :
    skipAfterItem (fuel + 1) (.list :: frames) (!isFirst) stream =
      skipValueIn fuel (.list :: frames) start := by
  unfold skipAfterItem
  cases ahead with
  | first ahead notClosed =>
      rw [ahead]
      simp [notClosed]
  | later comma ahead notClosed =>
      rw [comma, ← ahead, skipValueIn_skipSeparators positive]
      rfl

theorem skipAfterItem_field {start behindKey : List Symbol} {name : String}
    (ahead : FieldAhead isFirst stream start) (keyed : key start = .ok (name, behindKey))
    (fuel : Nat) (frames : List Frame) :
    skipAfterItem (fuel + 1) (.object :: frames) (!isFirst) stream =
      skipValueIn fuel (.object :: frames) behindKey := by
  have passed := skipKey_of_key keyed
  unfold skipAfterItem
  cases ahead with
  | first quote =>
      rw [quote]
      simp [passed]
  | later comma quote =>
      rw [← quote, skipKey_skipSeparators] at passed
      rw [comma]
      simp [passed]

theorem Spells.isPassed {stretch : Stretch} (spells : Spells depth stretch stream rest) :
    stretch.IsPassed stream rest := by
  induction spells with
  | scalar scalar =>
      intro fuel frames enough
      have shorter := Nat.lt_of_lt_of_le (length_lt_of_spellsScalar scalar)
        (length_skipSeparators_le _)
      obtain ⟨fuel, rfl⟩ := Nat.exists_eq_add_one_of_ne_zero (Nat.ne_zero_of_lt enough)
      exact ⟨_, by omega, skipValueIn_of_spellsScalar scalar _ frames⟩
  | array opens _ _ ih =>
      intro fuel frames enough
      have shorter := length_of_skipSeparators_eq opens
      obtain ⟨fuel, rfl⟩ := Nat.exists_eq_add_one_of_ne_zero (Nat.ne_zero_of_lt enough)
      rw [skipValueIn, opens]
      exact ih _ frames (by omega)
  | object opens _ _ ih =>
      intro fuel frames enough
      have shorter := length_of_skipSeparators_eq opens
      obtain ⟨fuel, rfl⟩ := Nat.exists_eq_add_one_of_ne_zero (Nat.ne_zero_of_lt enough)
      rw [skipValueIn, opens]
      exact ih _ frames (by omega)
  | noItem closes =>
      intro fuel frames enough
      have shorter := length_of_skipSeparators_eq closes
      obtain ⟨fuel, rfl⟩ := Nat.exists_eq_add_one_of_ne_zero (Nat.ne_zero_of_lt enough)
      exact ⟨_, by omega, skipAfterItem_closes_list closes _ frames _⟩
  | item ahead _ _ first others =>
      intro fuel frames enough
      have start := ahead.length_le
      obtain ⟨fuel, rfl⟩ := Nat.exists_eq_add_one_of_ne_zero (Nat.ne_zero_of_lt enough)
      rw [skipAfterItem_item ahead (by omega)]
      -- Behind the item its frame is still open, and the other items are passed over.
      obtain ⟨left, fits, passed⟩ := first fuel (.list :: frames) (by omega)
      rw [passed]
      exact others left frames fits
  | noField closes =>
      intro fuel frames enough
      have shorter := length_of_skipSeparators_eq closes
      obtain ⟨fuel, rfl⟩ := Nat.exists_eq_add_one_of_ne_zero (Nat.ne_zero_of_lt enough)
      exact ⟨_, by omega, skipAfterItem_closes_object closes _ frames _⟩
  | field ahead keyed _ _ first others =>
      intro fuel frames enough
      have start := ahead.length_lt
      have behindKey := length_lt_of_key keyed
      obtain ⟨fuel, rfl⟩ := Nat.exists_eq_add_one_of_ne_zero (Nat.ne_zero_of_lt enough)
      rw [skipAfterItem_field ahead keyed]
      obtain ⟨left, fits, passed⟩ := first fuel (.object :: frames) (by omega)
      rw [passed]
      exact others left frames fits

/-- Whatever is spelled is passed over, up to the same place. -/
theorem skipValue_of_spells (spells : Spells depth (.value found) stream rest) :
    skipValue stream = .ok rest := by
  obtain ⟨left, -, passed⟩ := spells.isPassed (fuelFor stream) [] (Nat.le_succ _)
  rw [skipValue, passed]
  rfl

end PluginHost.JsonReader
