import PluginHost.Proofs.Text.Blank
import PluginHost.Proofs.Toml.Strings
import PluginHost.Settings.Environment

/-!
# The notation of settings

The values of environment variables are written in a notation for truth values, numbers, texts,
lists and tables.  A single setting and a key are read exactly where the notation writes one; a word
is all that comes before the next separator, with the spaces there.
-/

namespace PluginHost

open Text

namespace SettingNotation

/-! ### What the notation writes -/

/-- A text between double quotes that stands for a text, whatever comes after it. -/
def IsQuoted (text : List Char) (value : String) : Prop :=
  ∀ rest, quotedText? (text ++ rest) = some (value, rest)

/-- A word: it has no characters that separate or enclose values, and does not begin as any other
value does. -/
structure IsWord (text : List Char) : Prop where
  plain : ∀ c ∈ text, isWordChar c = true
  begins : ∀ c ∈ text.head?, isSpace c = false ∧ c ≠ '"' ∧ c ≠ '\''
  notTrue : ¬ ['t', 'r', 'u', 'e'] <+: text
  notFalse : ¬ ['f', 'a', 'l', 's', 'e'] <+: text

/-- A text writes a single setting. -/
inductive WritesScalar : List Char → SettingScalar → Prop where
  | yes : WritesScalar ['t', 'r', 'u', 'e'] (.boolean true)
  | no : WritesScalar ['f', 'a', 'l', 's', 'e'] (.boolean false)
  | quoted {text : List Char} {value : String} (quoted : IsQuoted text value) :
      WritesScalar text (.text value)
  | character (c : Char) : WritesScalar ['\'', c, '\''] (.character c)
  | word {text : List Char} (isWord : IsWord text) : WritesScalar text (word text)

/-- A text writes a key. -/
inductive WritesKey : List Char → String → Prop where
  | quoted {text : List Char} {name : String} (quoted : IsQuoted text name) : WritesKey text name
  | bare {text : List Char} (notEmpty : text ≠ []) (plain : ∀ c ∈ text, isKeyChar c = true) :
      WritesKey text (String.ofList text)

/-- What is written: a setting, the items of a list with its closing bracket, an entry of a table,
or the entries of a table with its closing brace. -/
inductive Phrase where
  | setting (value : Setting)
  | items (items : List Setting)
  | entry (entry : String × Setting)
  | entries (entries : List (String × Setting))

/-- A text writes a phrase.  There may be spaces around a setting and around a key, and a comma
after the last item or entry. -/
inductive Writes : List Char → Phrase → Prop where
  | scalar {text : List Char} {value : SettingScalar} (writes : WritesScalar text value) :
      Writes text (.setting (.scalar .environment value))
  | list {text : List Char} {items : List Setting} (inner : Writes text (.items items)) :
      Writes ('[' :: text) (.setting (.list .environment items))
  | table {text : List Char} {entries : List (String × Setting)}
      (inner : Writes text (.entries entries)) :
      Writes ('\x7b' :: text) (.setting (.table .environment (KeyedList.ofList entries)))
  | spaced {before text after : List Char} {setting : Setting}
      (inner : Writes text (.setting setting)) (spacesBefore : ∀ c ∈ before, isSpace c = true)
      (spacesAfter : ∀ c ∈ after, isSpace c = true) :
      Writes (before ++ (text ++ after)) (.setting setting)
  | noItem : Writes [']'] (.items [])
  | lastItem {text : List Char} {item : Setting} (last : Writes text (.setting item))
      (notEmpty : text ≠ []) : Writes (text ++ [']']) (.items [item])
  | item {text rest : List Char} {item : Setting} {items : List Setting}
      (first : Writes text (.setting item)) (others : Writes rest (.items items)) :
      Writes (text ++ ',' :: rest) (.items (item :: items))
  | entry {before name after text : List Char} {key : String} {setting : Setting}
      (writesKey : WritesKey name key) (spacesBefore : ∀ c ∈ before, isSpace c = true)
      (spacesAfter : ∀ c ∈ after, isSpace c = true) (value : Writes text (.setting setting)) :
      Writes (before ++ (name ++ (after ++ '=' :: text))) (.entry (key, setting))
  | noEntry : Writes ['\x7d'] (.entries [])
  | lastEntry {text : List Char} {entry : String × Setting} (last : Writes text (.entry entry)) :
      Writes (text ++ ['\x7d']) (.entries [entry])
  | furtherEntry {text rest : List Char} {entry : String × Setting}
      {entries : List (String × Setting)} (first : Writes text (.entry entry))
      (others : Writes rest (.entries entries)) :
      Writes (text ++ ',' :: rest) (.entries (entry :: entries))

variable {text front rest : List Char}

/-! ### Spaces -/

theorem skipSpaces_append (spaces : ∀ c ∈ front, isSpace c = true) (rest : List Char) :
    skipSpaces (front ++ rest) = skipSpaces rest :=
  List.dropWhile_append_of_pos spaces

theorem exists_spaces (text : List Char) :
    ∃ spaces, text = spaces ++ skipSpaces text ∧ ∀ c ∈ spaces, isSpace c = true :=
  ⟨text.takeWhile isSpace, List.takeWhile_append_dropWhile.symm,
    fun _ => List.mem_takeWhile_imp⟩

theorem isSpace_head_skipSpaces (text : List Char) :
    ∀ c ∈ (skipSpaces text).head?, isSpace c = false := by
  intro c found
  have noSpace := List.head?_dropWhile_not isSpace text
  rw [← skipSpaces, Option.mem_def.mp found] at noSpace
  simpa using noSpace

theorem isBlank_of_isSpace {c : Char} (space : isSpace c = true) : isBlank c = true := by
  simp only [isSpace, Bool.or_eq_true, beq_iff_eq] at space
  obtain (rfl | rfl) | rfl := space <;> rfl

theorem isKeyChar_of_isSpace {c : Char} (space : isSpace c = true) : isKeyChar c = false := by
  simp only [isSpace, Bool.or_eq_true, beq_iff_eq] at space
  obtain (rfl | rfl) | rfl := space <;> rfl

theorem isWordChar_of_isSpace {c : Char} (space : isSpace c = true) : isWordChar c = true := by
  simp only [isSpace, Bool.or_eq_true, beq_iff_eq] at space
  obtain (rfl | rfl) | rfl := space <;> rfl

/-- After its spaces a text is at its end, or at a character that comes after values. -/
def IsSettled (text : List Char) : Prop :=
  ∀ c ∈ (skipSpaces text).head?, c = ',' ∨ c = ']' ∨ c = '\x7d'

theorem isSettled_cons {c : Char} (separator : c = ',' ∨ c = ']' ∨ c = '\x7d')
    (rest : List Char) : IsSettled (c :: rest) ∧ skipSpaces (c :: rest) = c :: rest := by
  have stays : skipSpaces (c :: rest) = c :: rest := by
    obtain rfl | rfl | rfl := separator <;> rfl
  refine ⟨?_, stays⟩
  rw [IsSettled, stays]
  simpa using separator

theorem IsSettled.append (settled : IsSettled rest) (spaces : ∀ c ∈ front, isSpace c = true) :
    IsSettled (front ++ rest) := by
  rwa [IsSettled, skipSpaces_append spaces]

theorem IsSettled.separates (settled : IsSettled rest) :
    ∀ c ∈ (skipSpaces rest).head?, isWordChar c = false := by
  intro c first
  obtain rfl | rfl | rfl := settled c first <;> rfl

/-- A settled text begins with a space or a character that comes after values. -/
theorem IsSettled.head (settled : IsSettled rest) :
    ∀ c ∈ rest.head?, isSpace c = true ∨ isWordChar c = false := by
  intro c first
  obtain ⟨spaces, whole, areSpaces⟩ := exists_spaces rest
  cases spaces with
  | nil => exact .inr (settled.separates c (by rwa [whole] at first))
  | cons d spaces =>
      rw [whole] at first
      cases first
      exact .inl (areSpaces c List.mem_cons_self)

/-! ### Single settings -/

theorem begins_of_quotedText? {value : String} (reads : quotedText? text = some (value, rest)) :
    ∃ inner, text = '"' :: inner := by
  unfold quotedText? at reads
  split at reads
  · exact ⟨_, rfl⟩
  · cases reads

theorem exists_front_of_quotedText? {value : String}
    (reads : quotedText? text = some (value, rest)) :
    ∃ front, text = front ++ rest ∧ IsQuoted front value := by
  obtain ⟨inner, rfl⟩ := begins_of_quotedText? reads
  have scans : TomlReader.scanBasic inner 0 [] = .ok (value, rest) := by
    cases scan : TomlReader.scanBasic inner 0 [] with
    | error fault => simp [quotedText?, scan, Except.toOption] at reads
    | ok read => simpa [quotedText?, scan, Except.toOption] using reads
  obtain ⟨front, rfl, -, again⟩ := TomlReader.exists_front_of_scanBasic scans
  refine ⟨'"' :: front, rfl, fun other => ?_⟩
  simp [quotedText?, again other, Except.toOption]

/-- What begins neither as a truth value nor with a quote is read as a word. -/
theorem scalar?_eq_word (quotes : ∀ c ∈ text.head?, c ≠ '"' ∧ c ≠ '\'')
    (notTrue : ¬ ['t', 'r', 'u', 'e'] <+: text)
    (notFalse : ¬ ['f', 'a', 'l', 's', 'e'] <+: text) :
    scalar? text = some (word (text.takeWhile isWordChar), text.dropWhile isWordChar) := by
  unfold scalar?
  split
  · exact absurd ⟨_, rfl⟩ notTrue
  · exact absurd ⟨_, rfl⟩ notFalse
  · exact absurd rfl (quotes _ rfl).1
  · exact absurd rfl (quotes _ rfl).2
  · exact absurd rfl (quotes _ rfl).2
  · rfl

theorem exists_front_of_scalar? {value : SettingScalar}
    (noSpace : ∀ c ∈ text.head?, isSpace c = false) (reads : scalar? text = some (value, rest)) :
    ∃ front, text = front ++ rest ∧ WritesScalar front value := by
  unfold scalar? at reads
  split at reads
  · cases reads
    exact ⟨_, rfl, .yes⟩
  · cases reads
    exact ⟨_, rfl, .no⟩
  · obtain ⟨⟨inner, after⟩, quoted, same⟩ := Option.map_eq_some_iff.mp reads
    cases same
    obtain ⟨front, whole, isQuoted⟩ := exists_front_of_quotedText? quoted
    exact ⟨front, whole, .quoted isQuoted⟩
  · cases reads
    exact ⟨_, rfl, .character _⟩
  · cases reads
  · next notTrue notFalse notDouble _ notSingle =>
      cases reads
      refine ⟨text.takeWhile isWordChar, List.takeWhile_append_dropWhile.symm, .word ?_⟩
      have leads : text.takeWhile isWordChar <+: text := List.takeWhile_prefix isWordChar
      refine ⟨fun _ => List.mem_takeWhile_imp, ?_, ?_, ?_⟩
      · intro c first
        have firstOfAll : c ∈ text.head? := by
          obtain ⟨others, whole⟩ := leads
          rw [← whole, List.head?_append, Option.mem_def.mp first, Option.some_or]
          rfl
        obtain ⟨others, rfl⟩ := List.head?_eq_some_iff.mp firstOfAll
        refine ⟨noSpace c rfl, ?_, ?_⟩
        · rintro rfl
          exact notDouble _ rfl
        · rintro rfl
          exact notSingle _ rfl
      · intro begins
        obtain ⟨others, rfl⟩ := begins.trans leads
        exact notTrue _ rfl
      · intro begins
        obtain ⟨others, rfl⟩ := begins.trans leads
        exact notFalse _ rfl

/-- A part that a text and a settled one begin with together is a part of the text, if it has no
spaces and nothing that separates values. -/
theorem IsSettled.prefix_of_append {part : List Char} (settled : IsSettled rest)
    (plain : part.all (fun c => !isSpace c && isWordChar c) = true)
    (begins : part <+: text ++ rest) : part <+: text := by
  rcases List.prefix_or_prefix_of_prefix begins (List.prefix_append text rest) with
    within | ⟨others, rfl⟩
  · exact within
  · cases others with
    | nil => exact ⟨[], by simp⟩
    | cons c others =>
        obtain ⟨after, whole⟩ := (List.prefix_append_right_inj text).mp begins
        have atFirst := List.all_eq_true.mp plain c (by simp)
        obtain ⟨noSpace, wordChar⟩ : isSpace c = false ∧ isWordChar c = true := by
          simpa using atFirst
        have first : c ∈ rest.head? := by simp [← whole]
        have separates := settled.head c first
        simp [noSpace, wordChar] at separates

theorem word_append_spaces (text : List Char) {spaces : List Char}
    (areSpaces : ∀ c ∈ spaces, isSpace c = true) : word (text ++ spaces) = word text := by
  have trimmed : trimList (text ++ spaces) = trimList text := by
    obtain ⟨front, back, whole, frontBlank, backBlank⟩ := surrounded_trimList text
    have surrounded : text ++ spaces = front ++ trimList text ++ (back ++ spaces) := by
      rw [← List.append_assoc, ← whole]
    rw [surrounded, trimList_surrounded (isTrimmed_trimList text) frontBlank]
    intro c member
    rcases List.mem_append.mp member with inBack | inSpaces
    · exact backBlank c inBack
    · exact isBlank_of_isSpace (areSpaces c inSpaces)
  rw [word, word, trimmed]

/-- What is written before a settled text is read up to there, or up to its spaces. -/
theorem scalar?_append {value : SettingScalar} (writes : WritesScalar text value)
    (settled : IsSettled rest) :
    ∃ after, scalar? (text ++ rest) = some (value, after) ∧ skipSpaces after = skipSpaces rest := by
  cases writes with
  | yes => exact ⟨rest, rfl, rfl⟩
  | no => exact ⟨rest, rfl, rfl⟩
  | @quoted _ value quoted =>
      obtain ⟨inner, begins⟩ := begins_of_quotedText? (quoted rest)
      refine ⟨rest, ?_, rfl⟩
      have reads := quoted rest
      rw [begins] at reads ⊢
      rw [scalar?, reads]
      rfl
  | character c => exact ⟨rest, rfl, rfl⟩
  | word isWord =>
      obtain ⟨spaces, whole, areSpaces⟩ := exists_spaces rest
      refine ⟨skipSpaces rest, ?_, ?_⟩
      · have quotes : ∀ c ∈ (text ++ rest).head?, c ≠ '"' ∧ c ≠ '\'' := by
          intro c first
          cases text with
          | nil =>
              constructor
              · rintro rfl
                exact absurd (settled.head _ first) (by decide)
              · rintro rfl
                exact absurd (settled.head _ first) (by decide)
          | cons d text => exact (isWord.begins c first).2
        rw [scalar?_eq_word quotes
          (fun begins => isWord.notTrue (settled.prefix_of_append (by decide) begins))
          (fun begins => isWord.notFalse (settled.prefix_of_append (by decide) begins))]
        have wordChars : ∀ c ∈ text ++ spaces, isWordChar c = true := by
          intro c member
          rcases List.mem_append.mp member with inText | inSpaces
          · exact isWord.plain c inText
          · exact isWordChar_of_isSpace (areSpaces c inSpaces)
        have cut : text ++ rest = text ++ spaces ++ skipSpaces rest := by
          rw [List.append_assoc, ← whole]
        rw [cut, List.takeWhile_append_of_pos wordChars, List.dropWhile_append_of_pos wordChars,
          takeWhile_of_head settled.separates, dropWhile_of_head settled.separates,
          List.append_nil, word_append_spaces text areSpaces]
      · exact dropWhile_of_head (isSpace_head_skipSpaces rest)

/-! ### Keys -/

theorem key?_append {name rest : List Char} {key : String} (writes : WritesKey name key)
    (ends : ∀ c ∈ rest.head?, isKeyChar c = false) :
    key? (name ++ rest) = some (key, rest) := by
  cases writes with
  | quoted quoted =>
      obtain ⟨inner, begins⟩ := begins_of_quotedText? (quoted rest)
      have reads := quoted rest
      rw [begins] at reads ⊢
      exact reads
  | bare notEmpty plain =>
      have taken : (name ++ rest).takeWhile isKeyChar = name := by
        rw [List.takeWhile_append_of_pos plain, takeWhile_of_head ends, List.append_nil]
      have left : (name ++ rest).dropWhile isKeyChar = rest := by
        rw [List.dropWhile_append_of_pos plain, dropWhile_of_head ends]
      unfold key?
      split
      · next quote begins =>
          obtain ⟨c, others, rfl⟩ := List.exists_cons_of_ne_nil notEmpty
          obtain ⟨rfl, -⟩ := List.cons.inj begins
          exact absurd (plain _ List.mem_cons_self) (by decide)
      · rw [taken, left]
        split
        · exact absurd rfl notEmpty
        · rfl

/-- No key begins with a space. -/
theorem skipSpaces_key {name : List Char} {key : String} (writes : WritesKey name key)
    (rest : List Char) : skipSpaces (name ++ rest) = name ++ rest := by
  cases writes with
  | quoted quoted =>
      obtain ⟨inner, begins⟩ := begins_of_quotedText? (quoted rest)
      rw [begins]
      rfl
  | bare notEmpty plain =>
      obtain ⟨c, others, rfl⟩ := List.exists_cons_of_ne_nil notEmpty
      refine dropWhile_of_head ?_
      rintro _ ⟨⟩
      exact Bool.eq_false_iff.mpr fun space =>
        absurd (plain c List.mem_cons_self) (by simp [isKeyChar_of_isSpace space])

theorem exists_front_of_key? {key : String} (reads : key? text = some (key, rest)) :
    ∃ front, text = front ++ rest ∧ WritesKey front key := by
  unfold key? at reads
  split at reads
  · obtain ⟨front, whole, quoted⟩ := exists_front_of_quotedText? reads
    exact ⟨front, whole, .quoted quoted⟩
  · split at reads
    · cases reads
    · next found =>
        cases reads
        refine ⟨text.takeWhile isKeyChar, List.takeWhile_append_dropWhile.symm, .bare ?_ ?_⟩
        · exact found
        · exact fun _ => List.mem_takeWhile_imp

end SettingNotation

end PluginHost
