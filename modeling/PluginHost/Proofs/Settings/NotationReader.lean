import PluginHost.Proofs.Settings.Notation

/-!
# The reader of the notation of settings

The reader takes a number of steps that the length of the text bounds, tries the forms one after the
other and never goes back.  Even so it reads all that the notation writes, and nothing else; a text
that writes no setting is a setting all the same, which is this text.
-/

namespace PluginHost

open Text

namespace SettingNotation

variable {text front rest : List Char}

/-! ### What is written is read -/

/-- A phrase is read from a text that begins with what writes it: in a number of steps that the
length of this part bounds, and up to what comes after it. -/
def Phrase.IsRead (text : List Char) : Phrase → Prop
  | .setting read => ∀ fuel rest, 2 * text.length + 1 ≤ fuel → IsSettled rest →
      value? fuel (text ++ rest) = some (read, skipSpaces rest)
  | .items read => ∀ fuel rest, 2 * text.length + 2 ≤ fuel →
      items? fuel (text ++ rest) = some (read, rest)
  | .entry read => ∀ fuel rest, 2 * text.length + 2 ≤ fuel → IsSettled rest →
      pair? fuel (text ++ rest) = some (read, skipSpaces rest)
  | .entries read => ∀ fuel rest, 2 * text.length + 2 ≤ fuel →
      pairs? fuel (text ++ rest) = some (read, rest)

theorem value?_skipSpaces (fuel : Nat) (text : List Char) :
    value? fuel (skipSpaces text) = value? fuel text := by
  cases fuel with
  | zero => rw [value?, value?]
  | succ fuel =>
      have stays : skipSpaces (skipSpaces text) = skipSpaces text :=
        dropWhile_of_head (isSpace_head_skipSpaces text)
      unfold value?
      rw [stays]

/-- What begins with no bracket and no brace is read as a single setting. -/
theorem value?_eq_scalar (fuel : Nat) (noSpace : ∀ c ∈ text.head?, isSpace c = false)
    (single : ∀ c ∈ text.head?, c ≠ '\x7b' ∧ c ≠ '[') :
    value? (fuel + 1) text = (scalar? text).map fun (value, rest) =>
      (.scalar .environment value, skipSpaces rest) := by
  have stays : skipSpaces text = text := dropWhile_of_head noSpace
  unfold value?
  rw [stays]
  split
  · exact absurd rfl (single _ rfl).1
  · exact absurd rfl (single _ rfl).2
  · rfl

theorem value?_spaces (fuel : Nat) (spaces : ∀ c ∈ front, isSpace c = true) (text : List Char) :
    value? fuel (front ++ text) = value? fuel text := by
  rw [← value?_skipSpaces, skipSpaces_append spaces, value?_skipSpaces]

theorem WritesScalar.head {value : SettingScalar} (writes : WritesScalar text value) :
    ∀ c ∈ text.head?, isSpace c = false ∧ c ≠ '\x7b' ∧ c ≠ '[' := by
  cases writes with
  | yes => rintro _ ⟨⟩; decide
  | no => rintro _ ⟨⟩; decide
  | quoted quoted =>
      obtain ⟨inner, begins⟩ := begins_of_quotedText? (quoted [])
      rw [List.append_nil] at begins
      rw [begins]
      rintro _ ⟨⟩
      decide
  | character c =>
      rintro _ ⟨⟩
      decide
  | word isWord =>
      intro c first
      have wordChar := isWord.plain c (List.mem_of_mem_head? first)
      refine ⟨(isWord.begins c first).1, ?_, ?_⟩
      · rintro rfl
        cases wordChar
      · rintro rfl
        cases wordChar

theorem isRead_scalar {value : SettingScalar} (writes : WritesScalar text value) :
    (Phrase.setting (.scalar .environment value)).IsRead text := by
  intro fuel rest enough settled
  obtain ⟨fuel, rfl⟩ := Nat.exists_eq_add_one_of_ne_zero (show fuel ≠ 0 by omega)
  -- Without a word the spaces after it are those before it.
  obtain ⟨other, skipped, otherSettled, same, head⟩ : ∃ other,
      skipSpaces (text ++ rest) = text ++ other ∧ IsSettled other ∧
        skipSpaces other = skipSpaces rest ∧
          ∀ c ∈ (text ++ other).head?, isSpace c = false ∧ c ≠ '\x7b' ∧ c ≠ '[' := by
    cases text with
    | nil =>
        have stays : skipSpaces (skipSpaces rest) = skipSpaces rest :=
          dropWhile_of_head (isSpace_head_skipSpaces rest)
        refine ⟨skipSpaces rest, rfl, ?_, stays, ?_⟩
        · rwa [IsSettled, stays]
        · intro c first
          obtain rfl | rfl | rfl := settled c first <;> decide
    | cons d text =>
        refine ⟨rest, dropWhile_of_head ?_, settled, rfl, writes.head⟩
        exact fun c first => (writes.head c first).1
  obtain ⟨after, reads, rests⟩ := scalar?_append writes otherSettled
  rw [← value?_skipSpaces, skipped, value?_eq_scalar fuel (fun c first => (head c first).1)
    (fun c first => (head c first).2), reads, ← same, ← rests]
  rfl

/-- Further items are read before what does not close a list. -/
theorem items?_of_open (fuel : Nat) (isOpen : ∀ rest, text ≠ ']' :: rest) :
    items? (fuel + 1) text =
      match value? fuel text with
      | some (first, ',' :: rest) =>
        (items? fuel rest).map fun (items, rest) => (first :: items, rest)
      | some (first, ']' :: rest) => some ([first], rest)
      | _ => none := by
  rw [items?.eq_def]
  dsimp only
  split
  · exact absurd rfl (isOpen _)
  · rfl

/-- Further entries are read before what does not close a table. -/
theorem pairs?_of_open (fuel : Nat) (isOpen : ∀ rest, text ≠ '\x7d' :: rest) :
    pairs? (fuel + 1) text =
      match pair? fuel text with
      | some (first, ',' :: rest) =>
        (pairs? fuel rest).map fun (pairs, rest) => (first :: pairs, rest)
      | some (first, '\x7d' :: rest) => some ([first], rest)
      | _ => none := by
  rw [pairs?.eq_def]
  dsimp only
  split
  · exact absurd rfl (isOpen _)
  · rfl

/-- A setting does not begin with what closes a list: before that an empty word would be read. -/
theorem Phrase.IsRead.setting_open {read : Setting} (isRead : (Phrase.setting read).IsRead text)
    (inner : List Char) : text ≠ ']' :: inner := by
  rintro rfl
  have whole := isRead _ [] (Nat.le_refl _) (by simp [IsSettled, skipSpaces])
  rw [value?_eq_scalar _ (by simp [isSpace]) (by simp)] at whole
  simp [scalar?, isWordChar, skipSpaces, isSpace] at whole

/-- An entry does not begin with what closes a table, since no key does. -/
theorem Phrase.IsRead.entry_open {read : String × Setting}
    (isRead : (Phrase.entry read).IsRead text) (inner : List Char) :
    text ≠ '\x7d' :: inner := by
  rintro rfl
  have whole := isRead _ [] (Nat.le_refl _) (by simp [IsSettled, skipSpaces])
  simp [pair?, key?, skipSpaces, isSpace, isKeyChar] at whole

theorem Writes.entry_ne_nil {entry : String × Setting} (writes : Writes text (.entry entry)) :
    text ≠ [] := by
  cases writes with
  | entry => simp

/-- What the notation writes is read. -/
theorem Writes.isRead {phrase : Phrase} (writes : Writes text phrase) : phrase.IsRead text := by
  induction writes with
  | scalar writes => exact isRead_scalar writes
  | @list text items inner ih =>
      intro fuel rest enough settled
      obtain ⟨fuel, rfl⟩ := Nat.exists_eq_add_one_of_ne_zero (show fuel ≠ 0 by omega)
      rw [List.length_cons] at enough
      have reads := ih fuel rest (by omega)
      have opens : skipSpaces ('[' :: (text ++ rest)) = '[' :: (text ++ rest) := rfl
      rw [List.cons_append, value?, opens]
      simp only [reads, Option.map_some]
  | @table text entries inner ih =>
      intro fuel rest enough settled
      obtain ⟨fuel, rfl⟩ := Nat.exists_eq_add_one_of_ne_zero (show fuel ≠ 0 by omega)
      rw [List.length_cons] at enough
      have reads := ih fuel rest (by omega)
      have opens : skipSpaces ('\x7b' :: (text ++ rest)) = '\x7b' :: (text ++ rest) := rfl
      rw [List.cons_append, value?, opens]
      simp only [reads, Option.map_some]
  | @spaced before text after setting inner spacesBefore spacesAfter ih =>
      intro fuel rest enough settled
      simp only [List.length_append] at enough
      rw [List.append_assoc, value?_spaces fuel spacesBefore, List.append_assoc,
        ih fuel _ (by omega) (settled.append spacesAfter), skipSpaces_append spacesAfter]
  | noItem =>
      intro fuel rest enough
      obtain ⟨fuel, rfl⟩ := Nat.exists_eq_add_one_of_ne_zero (show fuel ≠ 0 by omega)
      rw [List.singleton_append, items?]
  | @lastItem text item last notEmpty ih =>
      intro fuel rest enough
      obtain ⟨fuel, rfl⟩ := Nat.exists_eq_add_one_of_ne_zero (show fuel ≠ 0 by omega)
      rw [List.length_append, List.length_singleton] at enough
      obtain ⟨settled, stays⟩ := isSettled_cons (.inr (.inl rfl)) rest
      have isOpen (inner : List Char) : text ++ ']' :: rest ≠ ']' :: inner := by
        obtain ⟨c, others, rfl⟩ := List.exists_cons_of_ne_nil notEmpty
        intro same
        exact ih.setting_open others (by rw [(List.cons.inj same).1])
      rw [List.append_assoc, List.singleton_append, items?_of_open fuel isOpen,
        ih fuel _ (by omega) settled, stays]
      rfl
  | @item text later item items first others firstRead othersRead =>
      intro fuel rest enough
      obtain ⟨fuel, rfl⟩ := Nat.exists_eq_add_one_of_ne_zero (show fuel ≠ 0 by omega)
      rw [List.length_append, List.length_cons] at enough
      obtain ⟨settled, stays⟩ := isSettled_cons (.inl rfl) (later ++ rest)
      have isOpen (inner : List Char) : text ++ ',' :: (later ++ rest) ≠ ']' :: inner := by
        intro same
        cases text with
        | nil => simp at same
        | cons c text => exact firstRead.setting_open text (by rw [(List.cons.inj same).1])
      rw [List.append_assoc, List.cons_append, items?_of_open fuel isOpen,
        firstRead fuel _ (by omega) settled, stays]
      simp only [othersRead fuel rest (by omega), Option.map_some]
  | @entry before name after text key setting writesKey spacesBefore spacesAfter value ih =>
      intro fuel rest enough settled
      obtain ⟨fuel, rfl⟩ := Nat.exists_eq_add_one_of_ne_zero (show fuel ≠ 0 by omega)
      simp only [List.length_append, List.length_cons] at enough
      have mark : skipSpaces ('=' :: (text ++ rest)) = '=' :: (text ++ rest) := rfl
      have ends : ∀ c ∈ (after ++ '=' :: (text ++ rest)).head?, isKeyChar c = false := by
        intro c first
        cases after with
        | nil =>
            cases first
            rfl
        | cons d after =>
            cases first
            exact isKeyChar_of_isSpace (spacesAfter _ List.mem_cons_self)
      simp only [List.append_assoc, List.cons_append, pair?]
      rw [skipSpaces_append spacesBefore, skipSpaces_key writesKey, key?_append writesKey ends]
      simp only [skipSpaces_append spacesAfter, mark]
      rw [ih fuel rest (by omega) settled]
      rfl
  | noEntry =>
      intro fuel rest enough
      obtain ⟨fuel, rfl⟩ := Nat.exists_eq_add_one_of_ne_zero (show fuel ≠ 0 by omega)
      rw [List.singleton_append, pairs?]
  | @lastEntry text entry last ih =>
      intro fuel rest enough
      obtain ⟨fuel, rfl⟩ := Nat.exists_eq_add_one_of_ne_zero (show fuel ≠ 0 by omega)
      rw [List.length_append, List.length_singleton] at enough
      obtain ⟨settled, stays⟩ := isSettled_cons (.inr (.inr rfl)) rest
      have isOpen (inner : List Char) : text ++ '\x7d' :: rest ≠ '\x7d' :: inner := by
        obtain ⟨c, others, rfl⟩ := List.exists_cons_of_ne_nil last.entry_ne_nil
        intro same
        exact ih.entry_open others (by rw [(List.cons.inj same).1])
      rw [List.append_assoc, List.singleton_append, pairs?_of_open fuel isOpen,
        ih fuel _ (by omega) settled, stays]
      rfl
  | @furtherEntry text later entry entries first others firstRead othersRead =>
      intro fuel rest enough
      obtain ⟨fuel, rfl⟩ := Nat.exists_eq_add_one_of_ne_zero (show fuel ≠ 0 by omega)
      rw [List.length_append, List.length_cons] at enough
      obtain ⟨settled, stays⟩ := isSettled_cons (.inl rfl) (later ++ rest)
      have isOpen (inner : List Char) : text ++ ',' :: (later ++ rest) ≠ '\x7d' :: inner := by
        intro same
        cases text with
        | nil => simp at same
        | cons c text => exact firstRead.entry_open text (by rw [(List.cons.inj same).1])
      rw [List.append_assoc, List.cons_append, pairs?_of_open fuel isOpen,
        firstRead fuel _ (by omega) settled, stays]
      simp only [othersRead fuel rest (by omega), Option.map_some]

/-! ### What is read is written -/

/-- What is read in a number of steps is written by the part of the text that is taken. -/
structure ReadsWritten (fuel : Nat) : Prop where
  value : ∀ {text setting rest}, value? fuel text = some (setting, rest) →
    ∃ front, text = front ++ rest ∧ Writes front (.setting setting)
  items : ∀ {text items rest}, items? fuel text = some (items, rest) →
    ∃ front, text = front ++ rest ∧ Writes front (.items items)
  pair : ∀ {text entry rest}, pair? fuel text = some (entry, rest) →
    ∃ front, text = front ++ rest ∧ Writes front (.entry entry)
  pairs : ∀ {text entries rest}, pairs? fuel text = some (entries, rest) →
    ∃ front, text = front ++ rest ∧ Writes front (.entries entries)

theorem readsWritten_zero : ReadsWritten 0 where
  value reads := by
    rw [value?] at reads
    cases reads
  items reads := by
    rw [items?] at reads
    cases reads
  pair reads := by
    rw [pair?] at reads
    cases reads
  pairs reads := by
    rw [pairs?] at reads
    cases reads

/-- A setting may be written with the spaces before and after it. -/
theorem exists_front_spaced {setting : Setting} {after : List Char}
    (writes : Writes front (.setting setting)) (whole : skipSpaces text = front ++ after) :
    ∃ front, text = front ++ skipSpaces after ∧ Writes front (.setting setting) := by
  obtain ⟨before, wholeText, spacesBefore⟩ := exists_spaces text
  obtain ⟨between, wholeAfter, spacesBetween⟩ := exists_spaces after
  refine ⟨_, ?_, writes.spaced spacesBefore spacesBetween⟩
  rw [List.append_assoc, List.append_assoc, ← wholeAfter, ← whole, ← wholeText]

namespace ReadsWritten

variable {fuel : Nat}

theorem value_succ (inner : ReadsWritten fuel) {setting : Setting}
    (reads : value? (fuel + 1) text = some (setting, rest)) :
    ∃ front, text = front ++ rest ∧ Writes front (.setting setting) := by
  unfold value? at reads
  split at reads
  · next opens =>
      obtain ⟨⟨entries, after⟩, found, same⟩ := Option.map_eq_some_iff.mp reads
      cases same
      obtain ⟨front, rfl, writes⟩ := inner.pairs found
      exact exists_front_spaced (.table writes) opens
  · next opens =>
      obtain ⟨⟨items, after⟩, found, same⟩ := Option.map_eq_some_iff.mp reads
      cases same
      obtain ⟨front, rfl, writes⟩ := inner.items found
      exact exists_front_spaced (.list writes) opens
  · obtain ⟨⟨value, after⟩, found, same⟩ := Option.map_eq_some_iff.mp reads
    cases same
    obtain ⟨front, whole, writes⟩ := exists_front_of_scalar? (isSpace_head_skipSpaces text) found
    exact exists_front_spaced (.scalar writes) whole

theorem items_succ (inner : ReadsWritten fuel) {items : List Setting}
    (reads : items? (fuel + 1) text = some (items, rest)) :
    ∃ front, text = front ++ rest ∧ Writes front (.items items) := by
  unfold items? at reads
  split at reads
  · cases reads
    exact ⟨[']'], rfl, .noItem⟩
  · next isOpen =>
      split at reads
      · next first after found =>
          obtain ⟨⟨more, last⟩, readMore, same⟩ := Option.map_eq_some_iff.mp reads
          cases same
          obtain ⟨front, rfl, writes⟩ := inner.value found
          obtain ⟨later, rfl, others⟩ := inner.items readMore
          exact ⟨front ++ ',' :: later, by simp, writes.item others⟩
      · next first after found =>
          cases reads
          obtain ⟨front, rfl, writes⟩ := inner.value found
          refine ⟨front ++ [']'], by simp, writes.lastItem ?_⟩
          rintro rfl
          exact isOpen rest rfl
      · cases reads

theorem pair_succ (inner : ReadsWritten fuel) {entry : String × Setting}
    (reads : pair? (fuel + 1) text = some (entry, rest)) :
    ∃ front, text = front ++ rest ∧ Writes front (.entry entry) := by
  rw [pair?] at reads
  split at reads
  · cases reads
  · next name after readsKey =>
      split at reads
      · next marked =>
          obtain ⟨⟨setting, last⟩, found, same⟩ := Option.map_eq_some_iff.mp reads
          cases same
          obtain ⟨front, rfl, writes⟩ := inner.value found
          obtain ⟨key, wholeKey, writesKey⟩ := exists_front_of_key? readsKey
          obtain ⟨before, wholeText, spacesBefore⟩ := exists_spaces text
          obtain ⟨between, wholeAfter, spacesBetween⟩ := exists_spaces after
          refine ⟨_, ?_, writes.entry writesKey spacesBefore spacesBetween⟩
          rw [wholeKey, wholeAfter, marked] at wholeText
          simpa using wholeText
      · cases reads

theorem pairs_succ (inner : ReadsWritten fuel) {entries : List (String × Setting)}
    (reads : pairs? (fuel + 1) text = some (entries, rest)) :
    ∃ front, text = front ++ rest ∧ Writes front (.entries entries) := by
  unfold pairs? at reads
  split at reads
  · cases reads
    exact ⟨['\x7d'], rfl, .noEntry⟩
  · split at reads
    · next first after found =>
        obtain ⟨⟨more, last⟩, readMore, same⟩ := Option.map_eq_some_iff.mp reads
        cases same
        obtain ⟨front, rfl, writes⟩ := inner.pair found
        obtain ⟨later, rfl, others⟩ := inner.pairs readMore
        exact ⟨front ++ ',' :: later, by simp, writes.furtherEntry others⟩
    · next first after found =>
        cases reads
        obtain ⟨front, rfl, writes⟩ := inner.pair found
        exact ⟨front ++ ['\x7d'], by simp, writes.lastEntry⟩
    · cases reads

end ReadsWritten

theorem readsWritten (fuel : Nat) : ReadsWritten fuel := by
  induction fuel with
  | zero => exact readsWritten_zero
  | succ fuel inner =>
      exact ⟨inner.value_succ, inner.items_succ, inner.pair_succ, inner.pairs_succ⟩

/-! ### Whole texts -/

/-- A text is read as the setting that it writes. -/
theorem read_of_writes {text : String} {setting : Setting}
    (writes : Writes text.toList (.setting setting)) : read text = setting := by
  have enough : 2 * text.toList.length + 1 ≤ 3 * text.length + 3 := by
    rw [String.length_toList]
    omega
  have reads := writes.isRead (3 * text.length + 3) [] enough (by simp [IsSettled, skipSpaces])
  have nothing : skipSpaces [] = [] := rfl
  rw [List.append_nil, nothing] at reads
  rw [read, reads]

/-- A text that writes no setting is read as itself. -/
theorem read_of_not_writes {text : String}
    (writesNone : ∀ setting, ¬ Writes text.toList (.setting setting)) :
    read text = .scalar .environment (.text text) := by
  rw [read]
  split
  · next setting reads =>
      obtain ⟨front, whole, writes⟩ := (readsWritten _).value reads
      rw [List.append_nil] at whole
      exact absurd (whole ▸ writes) (writesNone setting)
  · rfl

end SettingNotation

end PluginHost
