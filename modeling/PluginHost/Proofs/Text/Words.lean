import PluginHost.Proofs.Text.Blank
import PluginHost.Text.Words

/-!
# Words of a text

The words of a text are the one list of words that the text has with nothing but white space around
and between them.  Written one after the other with a space between them they are the words again,
and the text that comes of it has no other white space.
-/

namespace PluginHost.Text

/-- A word has letters and no white space. -/
structure IsWord (letters : List Char) : Prop where
  nonempty : letters ≠ []
  noBlank : ∀ c ∈ letters, isBlank c = false

/-- A text has words in an order, with white space between any two of them, and nothing else. -/
inductive HasWords : List Char → List (List Char) → Prop where
  | none {gap : List Char} (blank : ∀ c ∈ gap, isBlank c = true) : HasWords gap []
  | some {gap word rest : List Char} {words : List (List Char)}
      (blank : ∀ c ∈ gap, isBlank c = true) (isWord : IsWord word)
      (apart : ∀ c ∈ rest.head?, isBlank c = true) (later : HasWords rest words) :
      HasWords (gap ++ word ++ rest) (word :: words)

/-- All white space of a text is single spaces, each between two other characters. -/
def SinglySpaced (text : List Char) : Prop :=
  ∀ before c after, text = before ++ c :: after → isBlank c = true →
    c = ' ' ∧ (∃ left ∈ before.getLast?, isBlank left = false) ∧
      ∃ right ∈ after.head?, isBlank right = false

variable {gap word rest text : List Char} {words : List (List Char)} {c : Char}

theorem isBlank_space : isBlank ' ' = true := by
  decide

/-! ### Reading words -/

theorem wordsAfter_blank (blank : isBlank c = true) (rest : List Char) :
    wordsAfter [] (c :: rest) = wordsAfter [] rest := by
  rw [wordsAfter.eq_def]
  simp [blank]

theorem wordsAfter_letter (notBlank : isBlank c = false) (letters rest : List Char) :
    wordsAfter letters (c :: rest) = wordsAfter (c :: letters) rest := by
  cases letters <;> simp [wordsAfter, notBlank]

theorem wordsAfter_gap (blank : ∀ c ∈ gap, isBlank c = true) (rest : List Char) :
    wordsAfter [] (gap ++ rest) = wordsAfter [] rest := by
  induction gap with
  | nil => rfl
  | cons c gap ih =>
      obtain ⟨first, later⟩ := List.forall_mem_cons.mp blank
      rw [List.cons_append, wordsAfter_blank first, ih later]

theorem wordsAfter_letters (noBlank : ∀ c ∈ word, isBlank c = false) (letters rest : List Char) :
    wordsAfter letters (word ++ rest) = wordsAfter (word.reverse ++ letters) rest := by
  induction word generalizing letters with
  | nil => rfl
  | cons c word ih =>
      obtain ⟨first, later⟩ := List.forall_mem_cons.mp noBlank
      rw [List.cons_append, wordsAfter_letter first, ih later]
      simp

/-- A word under way ends where white space or nothing comes next. -/
theorem wordsAfter_apart {letters : List Char} (underWay : letters ≠ [])
    (apart : ∀ c ∈ rest.head?, isBlank c = true) :
    wordsAfter letters rest = letters.reverse :: wordsAfter [] rest := by
  obtain ⟨d, more, rfl⟩ := List.exists_cons_of_ne_nil underWay
  cases rest with
  | nil => rfl
  | cons c rest =>
      have blank : isBlank c = true := apart c rfl
      rw [wordsAfter_blank blank]
      simp [wordsAfter, blank]

theorem HasWords.wordsAfter_eq (has : HasWords text words) : wordsAfter [] text = words := by
  induction has with
  | none blank => simpa [wordsAfter] using wordsAfter_gap blank []
  | @some gap word rest words blank isWord apart _ ih =>
      have underWay : word.reverse ≠ [] := by simpa using isWord.nonempty
      rw [List.append_assoc, wordsAfter_gap blank, wordsAfter_letters isWord.noBlank,
        List.append_nil, wordsAfter_apart underWay apart, List.reverse_reverse, ih]

theorem HasWords.cons_blank (has : HasWords text words) (blank : isBlank c = true) :
    HasWords (c :: text) words := by
  cases has with
  | none gap => exact .none (List.forall_mem_cons.mpr ⟨blank, gap⟩)
  | some gap isWord apart later =>
      exact .some (List.forall_mem_cons.mpr ⟨blank, gap⟩) isWord apart later

theorem isWord_singleton (notBlank : isBlank c = false) : IsWord [c] :=
  ⟨List.cons_ne_nil c [], by simpa using notBlank⟩

theorem HasWords.cons_word (isWord : IsWord word) (apart : ∀ c ∈ rest.head?, isBlank c = true)
    (later : HasWords rest words) : HasWords (word ++ rest) (word :: words) := by
  have whole : HasWords ([] ++ word ++ rest) (word :: words) := .some nofun isWord apart later
  exact whole

/-- A letter in front of a text goes on with its first word or is a word of its own. -/
theorem HasWords.cons_letter (has : HasWords text words) (notBlank : isBlank c = false) :
    ∃ words, HasWords (c :: text) words := by
  cases has with
  | none blank =>
      have apart : ∀ d ∈ text.head?, isBlank d = true := fun d found =>
        blank d (List.mem_of_head? found)
      exact ⟨_, .cons_word (isWord_singleton notBlank) apart (.none blank)⟩
  | @some gap word rest words blank isWord apart later =>
      cases gap with
      | nil =>
          have longer : IsWord (c :: word) :=
            ⟨List.cons_ne_nil c word, List.forall_mem_cons.mpr ⟨notBlank, isWord.noBlank⟩⟩
          exact ⟨_, .cons_word longer apart later⟩
      | cons d gap =>
          have whole : HasWords (d :: gap ++ word ++ rest) (word :: words) :=
            .some blank isWord apart later
          have follows : ∀ e ∈ (d :: gap ++ word ++ rest).head?, isBlank e = true := by
            simpa using (List.forall_mem_cons.mp blank).1
          exact ⟨_, .cons_word (isWord_singleton notBlank) follows whole⟩

theorem exists_hasWords (text : List Char) : ∃ words, HasWords text words := by
  induction text with
  | nil => exact ⟨[], .none nofun⟩
  | cons c text ih =>
      obtain ⟨words, has⟩ := ih
      cases blank : isBlank c with
      | true => exact ⟨words, has.cons_blank blank⟩
      | false => exact has.cons_letter blank

/-- The words that are read are the words that the text has. -/
theorem hasWords_iff : HasWords text words ↔ wordsAfter [] text = words := by
  constructor
  · exact HasWords.wordsAfter_eq
  · rintro rfl
    obtain ⟨words, has⟩ := exists_hasWords text
    rwa [has.wordsAfter_eq]

theorem HasWords.isWord (has : HasWords text words) : ∀ word ∈ words, IsWord word := by
  induction has with
  | none _ => exact nofun
  | some _ isWord _ _ ih => exact List.forall_mem_cons.mpr ⟨isWord, ih⟩

theorem wordsAfter_eq_nil_iff : wordsAfter [] text = [] ↔ ∀ c ∈ text, isBlank c = true := by
  rw [← hasWords_iff]
  constructor
  · rintro ⟨blank⟩
    exact blank
  · exact .none

/-! ### Words with a space between them -/

theorem IsWord.last_notBlank (isWord : IsWord word) :
    ∃ c ∈ word.getLast?, isBlank c = false :=
  ⟨word.getLast isWord.nonempty, List.getLast?_eq_some_getLast isWord.nonempty,
    isWord.noBlank _ (List.getLast_mem isWord.nonempty)⟩

theorem IsWord.singlySpaced (isWord : IsWord word) : SinglySpaced word := by
  rintro before c after rfl blank
  have notBlank := isWord.noBlank c (by simp)
  cases blank.symm.trans notBlank

/-- A word can be put in front of a singly spaced text, with a space in between. -/
theorem SinglySpaced.cons_word (spaced : SinglySpaced rest)
    (starts : ∃ c ∈ rest.head?, isBlank c = false) (isWord : IsWord word) :
    SinglySpaced (word ++ ' ' :: rest) := by
  intro before c after whole blank
  have atSpace (left : word = before) (right : rest = after) (space : ' ' = c) :
      c = ' ' ∧ (∃ left ∈ before.getLast?, isBlank left = false) ∧
        ∃ right ∈ after.head?, isBlank right = false :=
    ⟨space.symm, left ▸ isWord.last_notBlank, right ▸ starts⟩
  rcases List.append_eq_append_iff.mp whole with ⟨front, left, right⟩ | ⟨back, left, right⟩
  · cases front with
    | nil =>
        obtain ⟨space, same⟩ := List.cons.inj right
        exact atSpace (by simpa using left.symm) same space
    | cons d front =>
        obtain ⟨rfl, same⟩ := List.cons.inj right
        obtain ⟨space, ⟨e, last, notBlank⟩, follows⟩ := spaced front c after same blank
        have kept : e ∈ before.getLast? := by
          rw [left, List.getLast?_append, List.getLast?_cons, last]
          rfl
        exact ⟨space, ⟨e, kept, notBlank⟩, follows⟩
  · cases back with
    | nil =>
        obtain ⟨space, same⟩ := List.cons.inj right
        exact atSpace (by simpa using left) same.symm space.symm
    | cons d back =>
        obtain ⟨rfl, -⟩ := List.cons.inj right
        have notBlank := isWord.noBlank c (by simp [left])
        cases blank.symm.trans notBlank

theorem SinglySpaced.isTrimmed (spaced : SinglySpaced text) : IsTrimmed text where
  head c found := by
    obtain ⟨rest, rfl⟩ := List.head?_eq_some_iff.mp found
    cases blank : isBlank c with
    | false => rfl
    | true =>
        obtain ⟨-, ⟨left, last, -⟩, -⟩ := spaced [] c rest rfl blank
        cases last
  last c found := by
    obtain ⟨front, rfl⟩ := List.getLast?_eq_some_iff.mp found
    cases blank : isBlank c with
    | false => rfl
    | true =>
        obtain ⟨-, -, right, head, -⟩ := spaced front c [] rfl blank
        cases head

theorem HasWords.exists_head (has : HasWords text (word :: words)) : ∃ c, c ∈ text.head? := by
  cases text with
  | nil => cases has.wordsAfter_eq
  | cons c text => exact ⟨c, rfl⟩

/-- Words with a space between any two of them make a text that is singly spaced and has these
words. -/
theorem hasWords_intercalate (areWords : ∀ word ∈ words, IsWord word) :
    HasWords ([' '].intercalate words) words ∧ SinglySpaced ([' '].intercalate words) := by
  induction words with
  | nil => exact ⟨.none nofun, fun before c after whole => by simp at whole⟩
  | cons word words ih =>
      obtain ⟨isWord, laterWords⟩ := List.forall_mem_cons.mp areWords
      obtain ⟨has, spaced⟩ := ih laterWords
      cases words with
      | nil =>
          have alone : HasWords (word ++ []) [word] := .cons_word isWord nofun (.none nofun)
          rw [List.append_nil] at alone
          rw [List.intercalate_singleton]
          exact ⟨alone, isWord.singlySpaced⟩
      | cons next words =>
          obtain ⟨c, first⟩ := has.exists_head
          rw [List.intercalate_cons_cons, List.append_assoc]
          have apart :
              ∀ d ∈ (' ' :: [' '].intercalate (next :: words)).head?, isBlank d = true := by
            rintro _ ⟨⟩
            exact isBlank_space
          exact ⟨.cons_word isWord apart (has.cons_blank isBlank_space),
            spaced.cons_word ⟨c, first, spaced.isTrimmed.head c first⟩ isWord⟩

/-- What follows a word and a space in a singly spaced text is singly spaced. -/
theorem SinglySpaced.of_append_cons (spaced : SinglySpaced (word ++ ' ' :: rest)) :
    SinglySpaced rest := by
  rintro before c after rfl blank
  obtain ⟨space, ⟨left, last, notBlank⟩, follows⟩ :=
    spaced (word ++ ' ' :: before) c after (by simp) blank
  refine ⟨space, ?_, follows⟩
  cases before with
  | nil =>
      obtain rfl : ' ' = left := by simpa using last
      cases isBlank_space.symm.trans notBlank
  | cons d before =>
      have lastBefore : left ∈ (d :: before).getLast? := by
        simpa [List.getLast?_cons_cons] using last
      exact ⟨left, lastBefore, notBlank⟩

theorem SinglySpaced.eq_nil (spaced : SinglySpaced (gap ++ rest))
    (blank : ∀ c ∈ gap, isBlank c = true) : gap = [] := by
  cases gap with
  | nil => rfl
  | cons c gap =>
      have notBlank : isBlank c = false := spaced.isTrimmed.head c rfl
      cases (blank c List.mem_cons_self).symm.trans notBlank

/-- A singly spaced text is its words with a space between any two of them. -/
theorem HasWords.intercalate_eq (has : HasWords text words) (spaced : SinglySpaced text) :
    [' '].intercalate words = text := by
  induction words generalizing text with
  | nil =>
      have blank : ∀ c ∈ text, isBlank c = true := wordsAfter_eq_nil_iff.mp has.wordsAfter_eq
      rw [← List.append_nil text] at spaced
      exact (spaced.eq_nil blank).symm
  | cons word words ih =>
      cases has with
      | @some gap _ rest _ blank _ apart later =>
          rw [List.append_assoc] at spaced
          obtain rfl := spaced.eq_nil blank
          rw [List.nil_append] at spaced
          cases rest with
          | nil =>
              obtain rfl : [] = words := later.wordsAfter_eq
              simp
          | cons c rest =>
              have blankHead : isBlank c = true := apart c rfl
              obtain ⟨rfl, -, right, head, notBlank⟩ := spaced word c rest rfl blankHead
              have laterHas : HasWords rest words := by
                rw [hasWords_iff, ← wordsAfter_blank blankHead, later.wordsAfter_eq]
              have same := ih laterHas spaced.of_append_cons
              cases words with
              | nil =>
                  obtain rfl : [] = rest := same
                  cases head
              | cons next words =>
                  rw [List.intercalate_cons_cons, same]
                  simp

end PluginHost.Text
