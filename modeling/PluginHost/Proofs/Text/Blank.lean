import Mathlib.Data.List.TakeWhile
import PluginHost.Text.Blank

/-!
# Texts without white space at their ends

Cutting white space from the ends of a text gives the one core that has none at its ends and that
the text surrounds with white space.
-/

namespace PluginHost.Text

/-- There is no white space at the ends of a text. -/
structure IsTrimmed (text : List Char) : Prop where
  head : ∀ c ∈ text.head?, isBlank c = false
  last : ∀ c ∈ text.getLast?, isBlank c = false

variable {text core front back : List Char} {c : Char}

/-- Digits and letters lie from `0` to `z`. -/
theorem bounds_of_isAlphanum (alphanumeric : c.isAlphanum = true) :
    48 ≤ c.toNat ∧ c.toNat ≤ 122 := by
  change ((decide ('A'.val ≤ c.val ∧ c.val ≤ 'Z'.val) ||
    (decide ('a'.val ≤ c.val) && decide (c.val ≤ 'z'.val))) ||
    (decide ('0'.val ≤ c.val) && decide (c.val ≤ '9'.val))) = true at alphanumeric
  simp only [Bool.or_eq_true, Bool.and_eq_true, decide_eq_true_eq,
    UInt32.le_iff_toNat_le] at alphanumeric
  have code : c.val.toNat = c.toNat := rfl
  have digits : '0'.val.toNat = 48 ∧ '9'.val.toNat = 57 := ⟨rfl, rfl⟩
  have uppers : 'A'.val.toNat = 65 ∧ 'Z'.val.toNat = 90 := ⟨rfl, rfl⟩
  have lowers : 'a'.val.toNat = 97 ∧ 'z'.val.toNat = 122 := ⟨rfl, rfl⟩
  omega

theorem isBlank_eq_false_of_isAlphanum (alphanumeric : c.isAlphanum = true) :
    isBlank c = false := by
  have bounds := bounds_of_isAlphanum alphanumeric
  simp only [isBlank, Bool.or_eq_false_iff, Bool.and_eq_false_iff, decide_eq_false_iff_not,
    beq_eq_false_iff_ne]
  omega

theorem dropWhile_of_head {skip : Char → Bool} (stays : ∀ c ∈ text.head?, skip c = false) :
    text.dropWhile skip = text := by
  cases text with
  | nil => rfl
  | cons c rest => simp [stays c rfl]

theorem takeWhile_of_head {skip : Char → Bool} (stays : ∀ c ∈ text.head?, skip c = false) :
    text.takeWhile skip = [] := by
  cases text with
  | nil => rfl
  | cons c rest => simp [stays c rfl]

theorem isBlank_head_dropWhile (text : List Char) :
    ∀ c ∈ (text.dropWhile isBlank).head?, isBlank c = false := by
  intro c found
  have notBlank := List.head?_dropWhile_not isBlank text
  rw [Option.mem_def.mp found] at notBlank
  simpa using notBlank

theorem dropLeading_surrounded (blank : ∀ c ∈ front, isBlank c = true)
    (stays : ∀ c ∈ text.head?, isBlank c = false) :
    dropLeading isBlank (front ++ text) = text := by
  rw [dropLeading, List.dropWhile_append_of_pos blank, dropWhile_of_head stays]

theorem dropTrailing_surrounded (stays : ∀ c ∈ text.getLast?, isBlank c = false)
    (blank : ∀ c ∈ back, isBlank c = true) :
    dropTrailing isBlank (text ++ back) = text := by
  have blankReverse : ∀ c ∈ back.reverse, isBlank c = true := by simpa using blank
  have staysReverse : ∀ c ∈ text.reverse.head?, isBlank c = false := by
    simpa [List.head?_reverse] using stays
  rw [dropTrailing, List.reverse_append, List.dropWhile_append_of_pos blankReverse,
    dropWhile_of_head staysReverse, List.reverse_reverse]

theorem trimList_surrounded (trimmed : IsTrimmed core) (frontBlank : ∀ c ∈ front, isBlank c = true)
    (backBlank : ∀ c ∈ back, isBlank c = true) : trimList (front ++ core ++ back) = core := by
  rw [trimList, List.append_assoc]
  cases core with
  | nil =>
      have allBlank : ∀ c ∈ front ++ back, isBlank c = true := by
        intro c member
        rcases List.mem_append.mp member with inFront | inBack
        · exact frontBlank c inFront
        · exact backBlank c inBack
      rw [List.nil_append, dropLeading, List.dropWhile_eq_nil_iff.mpr allBlank]
      rfl
  | cons c rest =>
      have headStays : ∀ d ∈ (c :: rest ++ back).head?, isBlank d = false := trimmed.head
      rw [dropLeading_surrounded frontBlank headStays,
        dropTrailing_surrounded trimmed.last backBlank]

theorem surrounded_trimList (text : List Char) :
    ∃ front back, text = front ++ trimList text ++ back ∧ (∀ c ∈ front, isBlank c = true) ∧
      ∀ c ∈ back, isBlank c = true := by
  refine ⟨text.takeWhile isBlank, ((dropLeading isBlank text).reverse.takeWhile isBlank).reverse,
    ?_, fun c member => List.mem_takeWhile_imp member, fun c member => ?_⟩
  · have back : dropLeading isBlank text = trimList text ++
        ((dropLeading isBlank text).reverse.takeWhile isBlank).reverse := by
      rw [trimList, dropTrailing, ← List.reverse_append, List.takeWhile_append_dropWhile,
        List.reverse_reverse]
    rw [List.append_assoc, ← back]
    exact List.takeWhile_append_dropWhile.symm
  · exact List.mem_takeWhile_imp (List.mem_reverse.mp member)

theorem isTrimmed_trimList (text : List Char) : IsTrimmed (trimList text) where
  head c found := by
    -- What is left after the trailing part is cut is a beginning of what was there before.
    have beginning : trimList text <+: dropLeading isBlank text := by
      rw [trimList, dropTrailing, ← List.reverse_suffix, List.reverse_reverse]
      exact List.dropWhile_suffix isBlank
    obtain ⟨rest, same⟩ := beginning
    have first : (dropLeading isBlank text).head? = some c := by
      rw [← same, List.head?_append, found]
      rfl
    exact isBlank_head_dropWhile text c first
  last c found := by
    rw [trimList, dropTrailing, List.getLast?_reverse] at found
    exact isBlank_head_dropWhile (dropLeading isBlank text).reverse c found

theorem trimList_of_isTrimmed (trimmed : IsTrimmed text) : trimList text = text := by
  have surrounded : trimList ([] ++ text ++ []) = text := trimList_surrounded trimmed nofun nofun
  simpa using surrounded

theorem trimList_trimList (text : List Char) : trimList (trimList text) = trimList text :=
  trimList_of_isTrimmed (isTrimmed_trimList text)

theorem isTrimmed_of_noBlank (noBlank : ∀ c ∈ text, isBlank c = false) : IsTrimmed text where
  head c found := noBlank c (List.mem_of_head? found)
  last c found := noBlank c (List.mem_of_getLast? found)

/-- Cutting white space cuts nothing else. -/
theorem mem_trimList (member : c ∈ text) (notBlank : isBlank c = false) : c ∈ trimList text := by
  obtain ⟨front, back, same, frontBlank, backBlank⟩ := surrounded_trimList text
  rw [same, List.mem_append, List.mem_append] at member
  rcases member with (inFront | inCore) | inBack
  · simp [frontBlank c inFront] at notBlank
  · exact inCore
  · simp [backBlank c inBack] at notBlank

theorem trim_trim (text : String) : trim (trim text) = trim text := by
  rw [trim, trim, String.toList_ofList, trimList_trimList]

theorem trim_eq_empty_iff (text : String) : trim text = "" ↔ isBlankText text = true := by
  have surrounded := surrounded_trimList text.toList
  have empty : trim text = "" ↔ trimList text.toList = [] := by
    rw [trim, ← String.toList_inj, String.toList_ofList, String.toList_empty]
  rw [empty, isBlankText, List.all_eq_true]
  obtain ⟨front, back, same, frontBlank, backBlank⟩ := surrounded
  constructor
  · intro nothing c member
    rw [same, nothing, List.append_nil] at member
    rcases List.mem_append.mp member with inFront | inBack
    · exact frontBlank c inFront
    · exact backBlank c inBack
  · intro blank
    have cut : trimList ([] ++ [] ++ text.toList) = [] :=
      trimList_surrounded ⟨nofun, nofun⟩ nofun blank
    simpa using cut

end PluginHost.Text
