import PluginHost.Proofs.Text.Lines
import PluginHost.Settings.Diagnostic

/-!
# The place of an unknown key

An unknown key is looked up in the text that it came from.  It is found in the first line that
states it after the first header of its section, and what a diagnostic shows of the text is the key
and nothing else.
-/

namespace PluginHost

open Text

variable {content key gap line : List Char} {lines : List (List Char)} {offset : Nat}

/-! ### Lines that state a key -/

/-- A line states a key: after all the white space at its start comes the key, and then a space, a
tab or an equals sign. -/
inductive StatesKey (key gap : List Char) : List Char → Prop where
  | intro {mark : Char} {rest : List Char} (blank : ∀ c ∈ gap, isBlank c = true)
      (begins : ∀ c ∈ (key ++ mark :: rest).head?, isBlank c = false)
      (ends : mark = ' ' ∨ mark = '=' ∨ mark = '\t') :
      StatesKey key gap (gap ++ (key ++ mark :: rest))

/-- The header of a section. -/
def sectionHeader (name : String) : List Char :=
  '[' :: (name.toList ++ [']'])

/-- The part of a text that is searched for a key, and what comes before it: the whole text, or what
follows the first header of a section. -/
inductive SearchedPart (content : List Char) : List String → List Char → List Char → Prop where
  | whole : SearchedPart content [] [] content
  | after {name : String} {path : List String} {before part : List Char}
      (occurs : OccursFirst (sectionHeader name) content before part) :
      SearchedPart content (name :: path) (before ++ sectionHeader name) part

/-- The place of a key in a text: in the first line of the searched part that states the key, after
the white space of the line. -/
inductive LocatesKey (content : String) (path : List String) (key : String) : Nat → Prop where
  | intro {front part gap line : List Char} {before after : List (List Char)}
      (searched : SearchedPart content.toList path front part)
      (hasLines : HasLines part (before ++ line :: after))
      (earlier : ∀ other ∈ before, ∀ gap, ¬ StatesKey key.toList gap other)
      (states : StatesKey key.toList gap line) :
      LocatesKey content path key (String.ofList (front ++ before.flatten ++ gap)).utf8ByteSize

theorem StatesKey.gap_eq (states : StatesKey key gap line) : gap = line.takeWhile isBlank := by
  obtain ⟨blank, begins, -⟩ := states
  rw [List.takeWhile_append_of_pos blank, takeWhile_of_head begins, List.append_nil]

theorem startsWithKey_iff : startsWithKey key line = true ↔ ∃ gap, StatesKey key gap line := by
  constructor
  · intro starts
    rw [startsWithKey] at starts
    split at starts
    · next mark rest found =>
        have letters := stripLeading?_eq_some_iff.mp found
        have begins := isBlank_head_dropWhile line
        have whole := List.takeWhile_append_dropWhile (p := isBlank) (l := line)
        rw [letters] at begins whole
        have ends : mark = ' ' ∨ mark = '=' ∨ mark = '\t' := by
          simpa [or_assoc] using starts
        have blank : ∀ c ∈ line.takeWhile isBlank, isBlank c = true :=
          fun _ => List.mem_takeWhile_imp
        have states := StatesKey.intro blank begins ends
        rw [whole] at states
        exact ⟨_, states⟩
    · cases starts
  · rintro ⟨gap, blank, begins, ends⟩
    rw [startsWithKey, ← dropLeading, dropLeading_surrounded blank begins]
    simp only [stripLeading?_eq_some_iff.mpr rfl]
    simpa [or_assoc] using ends

theorem keyPlaceIn?_eq_none_iff :
    keyPlaceIn? key lines = none ↔ ∀ line ∈ lines, ∀ gap, ¬ StatesKey key gap line := by
  induction lines with
  | nil => simp [keyPlaceIn?]
  | cons line lines ih =>
      rw [keyPlaceIn?, List.forall_mem_cons, ← not_exists, ← startsWithKey_iff]
      cases startsWithKey key line <;> simp [ih]

theorem keyPlaceIn?_eq_some_iff :
    keyPlaceIn? key lines = some offset ↔
      ∃ before line after gap, lines = before ++ line :: after ∧
        (∀ other ∈ before, ∀ gap, ¬ StatesKey key gap other) ∧ StatesKey key gap line ∧
          offset = textSize (before.flatten ++ gap) := by
  induction lines generalizing offset with
  | nil => simp [keyPlaceIn?]
  | cons first lines ih =>
      rw [keyPlaceIn?]
      split
      · next starts =>
          obtain ⟨gap, states⟩ := startsWithKey_iff.mp starts
          rw [← states.gap_eq, Option.some.injEq]
          constructor
          · rintro rfl
            exact ⟨[], first, lines, gap, rfl, nofun, states, rfl⟩
          · rintro ⟨before, line, after, other, cut, earlier, otherStates, rfl⟩
            cases before with
            | nil =>
                obtain ⟨rfl, -⟩ := List.cons.inj cut
                rw [states.gap_eq, otherStates.gap_eq]
                rfl
            | cons notFirst before =>
                obtain ⟨rfl, -⟩ := List.cons.inj cut
                exact absurd states (earlier first List.mem_cons_self gap)
      · next notStarts =>
          rw [startsWithKey_iff, not_exists] at notStarts
          simp only [Option.map_eq_some_iff, ih]
          constructor
          · rintro ⟨_, ⟨before, line, after, gap, rfl, earlier, states, rfl⟩, rfl⟩
            refine ⟨first :: before, line, after, gap, rfl,
              List.forall_mem_cons.mpr ⟨notStarts, earlier⟩, states, ?_⟩
            simp only [List.flatten_cons, textSize_append, Nat.add_assoc]
          · rintro ⟨before, line, after, gap, cut, earlier, states, rfl⟩
            cases before with
            | nil =>
                obtain ⟨rfl, -⟩ := List.cons.inj cut
                exact absurd states (notStarts gap)
            | cons _ before =>
                obtain ⟨rfl, later⟩ := List.cons.inj cut
                refine ⟨_, ⟨before, line, after, gap, later,
                  (List.forall_mem_cons.mp earlier).2, states, rfl⟩, ?_⟩
                simp only [List.flatten_cons, textSize_append, Nat.add_assoc]

/-! ### Searching a text -/

section

variable {content : String} {path rest : List String} {name key : String}
  {front part otherFront otherPart : List Char}

theorem SearchedPart.unique {content : List Char} (searched : SearchedPart content path front part)
    (other : SearchedPart content path otherFront otherPart) :
    front = otherFront ∧ part = otherPart := by
  cases searched with
  | whole =>
      cases other
      exact ⟨rfl, rfl⟩
  | after occurs =>
      cases other with
      | after otherOccurs =>
          obtain ⟨rfl, rfl⟩ := occurs.unique otherOccurs
          exact ⟨rfl, rfl⟩

theorem SearchedPart.isInfix {content : List Char}
    (searched : SearchedPart content (name :: rest) front part) :
    sectionHeader name <:+: content := by
  cases searched with
  | after occurs => exact ⟨_, _, occurs.whole.symm⟩

/-- A text is searched unless the header of the section is missing. -/
theorem exists_searchedPart (content : List Char) (path : List String) :
    (∃ front part, SearchedPart content path front part) ∨
      ∃ name rest, path = name :: rest ∧ ¬ sectionHeader name <:+: content := by
  cases path with
  | nil => exact .inl ⟨[], content, .whole⟩
  | cons name rest =>
      rcases afterFirst?_spec (sectionHeader name) content with
        ⟨before, part, occurs, -⟩ | ⟨absent, -⟩
      · exact .inl ⟨_, part, .after occurs⟩
      · exact .inr ⟨name, rest, rfl, absent⟩

theorem keyPlace?_of_searched (searched : SearchedPart content.toList path front part) :
    keyPlace? content path key =
      (keyPlaceIn? key.toList (linesOf part)).map (textSize front + ·) := by
  generalize letters : content.toList = text at searched
  cases searched with
  | whole =>
      have start : textSize [] = 0 := rfl
      simp [keyPlace?, letters, start]
  | after occurs =>
      have found := afterFirst?_eq_some_iff.mpr ⟨_, occurs, rfl⟩
      rw [keyPlace?, letters, ← sectionHeader, found]

theorem keyPlace?_of_absent (absent : ¬ sectionHeader name <:+: content.toList) :
    keyPlace? content (name :: rest) key = none := by
  rw [keyPlace?, ← sectionHeader, afterFirst?_eq_none_iff.mpr absent]

theorem keyPlace?_eq_none_iff :
    keyPlace? content path key = none ↔
      (∃ name rest, path = name :: rest ∧ ¬ sectionHeader name <:+: content.toList) ∨
        ∃ front part lines, SearchedPart content.toList path front part ∧ HasLines part lines ∧
          ∀ line ∈ lines, ∀ gap, ¬ StatesKey key.toList gap line := by
  rcases exists_searchedPart content.toList path with
    ⟨front, part, searched⟩ | ⟨name, rest, rfl, absent⟩
  · rw [keyPlace?_of_searched searched, Option.map_eq_none_iff, keyPlaceIn?_eq_none_iff]
    constructor
    · intro unstated
      exact .inr ⟨front, part, _, searched, hasLines_iff.mpr rfl, unstated⟩
    · rintro (⟨name, rest, rfl, absent⟩ | ⟨_, _, lines, other, has, unstated⟩)
      · exact absurd searched.isInfix absent
      · obtain ⟨rfl, rfl⟩ := searched.unique other
        rwa [has.linesOf_eq]
  · exact iff_of_true (keyPlace?_of_absent absent) (.inl ⟨name, rest, rfl, absent⟩)

theorem keyPlace?_eq_some_iff :
    keyPlace? content path key = some offset ↔ LocatesKey content path key offset := by
  constructor
  · intro found
    rcases exists_searchedPart content.toList path with
      ⟨front, part, searched⟩ | ⟨name, rest, rfl, absent⟩
    · rw [keyPlace?_of_searched searched, Option.map_eq_some_iff] at found
      obtain ⟨_, inPart, rfl⟩ := found
      obtain ⟨before, line, after, gap, cut, earlier, states, rfl⟩ :=
        keyPlaceIn?_eq_some_iff.mp inPart
      rw [← textSize_append, ← List.append_assoc, textSize_eq]
      exact .intro searched (cut ▸ hasLines_iff.mpr rfl) earlier states
    · cases (keyPlace?_of_absent absent).symm.trans found
  · rintro ⟨searched, hasLines, earlier, states⟩
    rw [keyPlace?_of_searched searched, hasLines.linesOf_eq,
      keyPlaceIn?_eq_some_iff.mpr ⟨_, _, _, _, rfl, earlier, states, rfl⟩, Option.map_some,
      ← textSize_append, ← List.append_assoc, textSize_eq]

theorem SearchedPart.append_eq {content : List Char}
    (searched : SearchedPart content path front part) : front ++ part = content := by
  cases searched with
  | whole => rfl
  | after occurs => exact occurs.whole.symm

/-- Around the place of a key: the white space before it, and what this white space follows. -/
theorem LocatesKey.exists_around (locates : LocatesKey content path key offset) :
    ∃ front gap after, content.toList = front ++ gap ++ key.toList ++ after ∧
      (String.ofList (front ++ gap)).utf8ByteSize = offset ∧
        (∀ c ∈ gap, isBlank c = true ∧ c ≠ '\n') ∧
          (front.getLast? = some '\n' ∨ ∃ part, SearchedPart content.toList path front part) := by
  obtain @⟨front, part, gap, _, before, after, searched, hasLines, -, states⟩ := locates
  obtain @⟨mark, rest, blank, -, -⟩ := states
  have noBreak : ∀ c ∈ gap, c ≠ '\n' := by
    rintro c member rfl
    obtain ⟨left, right, rfl⟩ := List.append_of_mem member
    have nothing : right ++ (key.toList ++ mark :: rest) = [] :=
      hasLines.eq_nil_of_mem List.mem_append_cons_self (List.append_assoc left _ _)
    simp at nothing
  refine ⟨front ++ before.flatten, gap, mark :: rest ++ after.flatten, ?_, rfl,
    fun c member => ⟨blank c member, noBreak c member⟩, ?_⟩
  · rw [← searched.append_eq, ← hasLines.flatten_eq]
    simp
  · rcases hasLines.flatten_before rfl with rfl | endsLine
    · exact .inr ⟨part, by simpa using searched⟩
    · exact .inl (by rw [List.getLast?_append, endsLine, Option.some_or])

theorem LocatesKey.covers (locates : LocatesKey content path key offset) :
    Covers content offset key.utf8ByteSize key := by
  obtain ⟨front, gap, after, whole, rfl, -⟩ := locates.exists_around
  have same : content = String.ofList (front ++ gap) ++ key ++ String.ofList after := by
    rw [← String.toList_inj]
    simp [whole]
  rw [same]
  exact covers_append _ key _

end

/-! ### What a diagnostic shows -/

theorem SettingSource.mem_of_text? {texts : List SettingsText} {source : SettingSource}
    {text : SettingsText} (found : source.text? texts = some text) : text ∈ texts := by
  unfold SettingSource.text? at found
  split at found
  · exact List.mem_of_find?_eq_some found
  · split at found
    · exact List.mem_singleton.mpr (Option.some.inj found).symm
    · cases found

/-- A place that is shown with an unknown key was found in the text that it is shown of. -/
theorem SettingFault.place_of_diagnostic {directory key : String} {texts : List SettingsText}
    {fault : SettingFault} {suggestion : Option String} {validKeys : List String} {place : KeyPlace}
    (shown : fault.diagnostic directory texts =
      .unknownKey key suggestion validKeys (some place)) :
    place.source ∈ texts ∧ place.size = key.utf8ByteSize ∧
      PluginHost.keyPlace? place.source.content fault.path key = some place.offset := by
  rw [SettingFault.diagnostic] at shown
  split at shown
  · next named _ _ =>
      obtain ⟨rfl, -, -, found⟩ := SettingsDiagnostic.unknownKey.inj shown
      rw [SettingFault.keyPlace?] at found
      split at found
      · cases found
      · next text isText =>
          obtain ⟨offset, foundAt, rfl⟩ := Option.map_eq_some_iff.mp found
          exact ⟨SettingSource.mem_of_text? isText, rfl, foundAt⟩
  · cases shown
  · cases shown

/-- What the search for a key in a text finds, and what a diagnostic shows of it. -/
structure FindsKey (content : String) (path : List String) (key : String) : Prop where
  /-- Nothing is found exactly if the header of the section is missing, or no line of the searched
  part states the key. -/
  none_iff : keyPlace? content path key = none ↔
    (∃ name rest, path = name :: rest ∧ ¬ sectionHeader name <:+: content.toList) ∨
      ∃ front part lines, SearchedPart content.toList path front part ∧ HasLines part lines ∧
        ∀ line ∈ lines, ∀ gap, ¬ StatesKey key.toList gap line
  /-- What is found is the place of the key in the first line of this part that states it. -/
  some_iff : ∀ offset, keyPlace? content path key = some offset ↔
    LocatesKey content path key offset
  /-- From there on the text has the key, from one character boundary to another. -/
  covers : ∀ offset, keyPlace? content path key = some offset →
    Covers content offset key.utf8ByteSize key
  /-- Before it is only white space, which has no line break: it comes after one, or where the
  searched part begins. -/
  afterBlanks : ∀ offset, keyPlace? content path key = some offset →
    ∃ front gap after, content.toList = front ++ gap ++ key.toList ++ after ∧
      (String.ofList (front ++ gap)).utf8ByteSize = offset ∧
        (∀ c ∈ gap, isBlank c = true ∧ c ≠ '\n') ∧
          (front.getLast? = some '\n' ∨ ∃ part, SearchedPart content.toList path front part)
  /-- What a diagnostic shows of one of the texts is what was found there: the key. -/
  shown : ∀ directory texts (fault : SettingFault) suggestion validKeys place,
    fault.path = path → place.source.content = content →
      fault.diagnostic directory texts = .unknownKey key suggestion validKeys (some place) →
        place.source ∈ texts ∧ keyPlace? content path key = some place.offset ∧
          Covers content place.offset place.size key

theorem keyPlace?_findsKey (content : String) (path : List String) (key : String) :
    FindsKey content path key where
  none_iff := keyPlace?_eq_none_iff
  some_iff _ := keyPlace?_eq_some_iff
  covers _ found := (keyPlace?_eq_some_iff.mp found).covers
  afterBlanks _ found := (keyPlace?_eq_some_iff.mp found).exists_around
  shown directory texts fault suggestion validKeys place samePath sameContent shown := by
    subst samePath sameContent
    obtain ⟨member, size, found⟩ := SettingFault.place_of_diagnostic shown
    exact ⟨member, found, size ▸ (keyPlace?_eq_some_iff.mp found).covers⟩

example : keyPlace? "# é\r\n[server]\r\n  prot = 1" ["server"] "prot" = some 18 := by decide

end PluginHost
