import PluginHost.Proofs.Text.Blank
import PluginHost.Proofs.Version.Reading
import PluginHost.Version.Constraint

/-!
# The grammar of version constraints

The four forms share one space of texts, and the reader decides between them by the ends of a text.
Each form is stated here by what stands in the text, and the reader accepts exactly the texts that
have one.
-/

namespace PluginHost

open Text

/-! ### Versions between the signs of constraints -/

namespace Version

variable {version : Version} {c : Char}

theorem IsVersionChar.isBlank_eq_false (isVersionChar : IsVersionChar c) : isBlank c = false := by
  rcases isVersionChar with letter | rfl | rfl
  · rw [isIdentifierChar, Bool.or_eq_true, beq_iff_eq] at letter
    rcases letter with alphanumeric | rfl
    · exact isBlank_eq_false_of_isAlphanum alphanumeric
    · decide
  · decide
  · decide

theorem WellFormed.isTrimmed_text (wellFormed : version.WellFormed) :
    IsTrimmed version.text.toList :=
  isTrimmed_of_noBlank fun _ member => (wellFormed.isVersionChar member).isBlank_eq_false

theorem parse_trim (expression : String) :
    parse (trim expression) = parseList (trimList expression.toList) := by
  rw [parse, trim, String.toList_ofList]

theorem digit_first_of_parseList {text : List Char} (reads : parseList text = .ok version) :
    ∃ c rest, text = c :: rest ∧ c.isDigit = true := by
  obtain ⟨-, rfl⟩ := parseList_eq_ok_iff.mp reads
  obtain ⟨c, digits, spelled, digit⟩ := (isNumeral_toDigits version.major).exists_first
  exact ⟨c, _, by rw [toList_text, spelled, List.cons_append], digit⟩

/-- A text with a version in it, white space apart, has no other characters. -/
theorem not_mem_of_parseList_trimList {text : List Char}
    (reads : parseList (trimList text) = .ok version) (notBlank : isBlank c = false)
    (other : ¬ IsVersionChar c) : c ∉ text := by
  intro member
  obtain ⟨wellFormed, spelled⟩ := parseList_eq_ok_iff.mp reads
  have inCore := mem_trimList member notBlank
  rw [spelled] at inCore
  exact other (wellFormed.isVersionChar inCore)

end Version

namespace VersionConstraint

variable {text before after stem : List Char} {separator mark c : Char} {expression : String}
  {constraint : VersionConstraint} {version lower upper : Version} {major minor value : Nat}

/-! ### The parts of a constraint -/

theorem splitOnce?_eq_some_iff : splitOnce? separator text = some (before, after) ↔
    text = before ++ separator :: after ∧ separator ∉ before := by
  induction text generalizing before with
  | nil => simp [splitOnce?]
  | cons c rest ih =>
      rw [splitOnce?]
      by_cases separates : c = separator
      · subst separates
        cases before with
        | nil => simp
        | cons d before => simp; grind
      · simp only [beq_iff_eq, separates, if_false, Option.map_eq_some_iff, Prod.exists,
          Prod.mk.injEq]
        constructor
        · rintro ⟨front, back, found, rfl, rfl⟩
          obtain ⟨rfl, absent⟩ := ih.mp found
          exact ⟨rfl, by simp [absent, Ne.symm separates]⟩
        · rintro ⟨spelled, absent⟩
          cases before with
          | nil => exact absurd (List.cons.inj spelled).1 separates
          | cons d front =>
              obtain ⟨rfl, rfl⟩ := List.cons.inj spelled
              have absent := (not_or.mp (List.mem_cons.not.mp absent)).2
              exact ⟨front, after, ih.mpr ⟨rfl, absent⟩, rfl, rfl⟩

/-- The marks that stand for any patch. -/
def IsMark (mark : Char) : Prop :=
  mark = 'x' ∨ mark = 'X' ∨ mark = '*'

/-- A text ends as minor wildcards do. -/
def EndsInMark (text : List Char) : Prop :=
  ∃ stem mark, IsMark mark ∧ text = stem ++ ['.', mark]

theorem wildcardStem?_eq_some_iff :
    wildcardStem? text = some stem ↔ ∃ mark, IsMark mark ∧ text = stem ++ ['.', mark] := by
  have reversed (mark : Char) :
      text = stem ++ ['.', mark] ↔ text.reverse = mark :: '.' :: stem.reverse := by
    rw [← List.reverse_inj]
    simp
  simp only [reversed, wildcardStem?]
  split
  · next mark front same =>
      simp only [Bool.or_eq_true, beq_iff_eq, same, List.cons.injEq, true_and]
      constructor
      · intro found
        split at found
        · next isMark =>
            cases found
            exact ⟨mark, by rwa [IsMark, ← or_assoc], rfl, by simp⟩
        · cases found
      · rintro ⟨_, isMark, rfl, rfl⟩
        rw [IsMark, ← or_assoc] at isMark
        simp [isMark]
  · next other =>
      simp only [reduceCtorEq, false_iff]
      rintro ⟨mark, -, same⟩
      exact other mark _ same

theorem wildcardStem?_eq_none_iff : wildcardStem? text = none ↔ ¬ EndsInMark text := by
  rw [Option.eq_none_iff_forall_ne_some, EndsInMark]
  simp [wildcardStem?_eq_some_iff]

/-- A number as minor wildcards have it: a numeral of 64 bits. -/
structure SpellsNumber (text : List Char) (value : Nat) : Prop where
  numeral : IsNumeral text
  value_eq : value = Nat.ofDigitChars 10 text 0
  fits : value ≤ Version.greatestNumber

/-- A number that may have a plus sign. -/
def SpellsSigned (text : List Char) (value : Nat) : Prop :=
  SpellsNumber text value ∨ ∃ digits, text = '+' :: digits ∧ SpellsNumber digits value

theorem parse_unsigned64_eq_ok_iff {result : Int} :
    IntegerRange.unsigned64.parse text = .ok result ↔
      ∃ value : Nat, result = value ∧ SpellsSigned text value := by
  have bound : IntegerRange.unsigned64.greatest = (Version.greatestNumber : Int) := by decide
  rw [IntegerRange.parse_eq_ok_iff rfl (by decide), bound]
  constructor
  · rintro ⟨digits, numeral, spelled, rfl, fits⟩
    have spells : SpellsNumber digits (Nat.ofDigitChars 10 digits 0) :=
      ⟨numeral, rfl, Int.ofNat_le.mp fits⟩
    rcases spelled with rfl | rfl
    · exact ⟨_, rfl, .inl spells⟩
    · exact ⟨_, rfl, .inr ⟨digits, rfl, spells⟩⟩
  · rintro ⟨value, rfl, ⟨numeral, rfl, fits⟩ | ⟨digits, rfl, numeral, rfl, fits⟩⟩
    · exact ⟨text, numeral, .inl rfl, rfl, Int.ofNat_le.mpr fits⟩
    · exact ⟨digits, numeral, .inr rfl, rfl, Int.ofNat_le.mpr fits⟩

theorem SpellsSigned.first (spells : SpellsSigned text value) :
    ∃ c rest, text = c :: rest ∧ (c.isDigit = true ∨ c = '+') := by
  rcases spells with ⟨numeral, -, -⟩ | ⟨digits, rfl, -⟩
  · obtain ⟨c, rest, rfl, digit⟩ := numeral.exists_first
    exact ⟨c, rest, rfl, .inl digit⟩
  · exact ⟨'+', digits, rfl, .inr rfl⟩

theorem SpellsSigned.fits (spells : SpellsSigned text value) : value ≤ Version.greatestNumber := by
  rcases spells with spells | ⟨digits, -, spells⟩
  · exact spells.fits
  · exact spells.fits

theorem SpellsSigned.noPoint (spells : SpellsSigned text value) : '.' ∉ text := by
  have noPoint {digits : List Char} (numeral : IsNumeral digits) : '.' ∉ digits := fun member =>
    absurd (numeral.digits '.' member) (by decide)
  rcases spells with ⟨numeral, -, -⟩ | ⟨digits, rfl, numeral, -, -⟩
  · exact noPoint numeral
  · simpa using noPoint numeral

/-! ### The forms -/

/-- Two numbers and a mark with points between them. -/
def IsWildcard (Spells : List Char → Nat → Prop) (text : List Char) (major minor : Nat) : Prop :=
  ∃ majorText minorText mark, Spells majorText major ∧ Spells minorText minor ∧ IsMark mark ∧
    text = majorText ++ '.' :: (minorText ++ ['.', mark])

/-- Two versions, the first below the second, behind their signs and with any white space. -/
def IsRange (text : List Char) (lower upper : Version) : Prop :=
  ∃ lowerText upperText, text = '>' :: '=' :: (lowerText ++ '<' :: upperText) ∧
    Version.parseList (trimList lowerText) = .ok lower ∧
    Version.parseList (trimList upperText) = .ok upper ∧ lower.isBelow upper = true

/-- The texts of a constraint that have no white space at their ends. -/
inductive Spells : List Char → VersionConstraint → Prop where
  | nothing : Spells [] any
  | star : Spells ['*'] any
  | exact {text : List Char} {version : Version} (reads : Version.parseList text = .ok version)
      (plain : ¬ EndsInMark text) : Spells text (.exact version)
  | minorWildcard {text : List Char} {major minor : Nat}
      (isWildcard : IsWildcard SpellsSigned text major minor) :
      Spells text (.minorWildcard major minor)
  | range {text : List Char} {lower upper : Version} (isRange : IsRange text lower upper) :
      Spells text (.range lower upper)

theorem readVersion_eq_ok_iff :
    readVersion text = .ok version ↔ Version.parseList (trimList text) = .ok version :=
  mapError_eq_ok_iff

theorem readRange_eq_ok_iff :
    readRange expression text = .ok constraint ↔
      ∃ lower upper, constraint = .range lower upper ∧
        IsRange ('>' :: '=' :: text) lower upper := by
  constructor
  · intro reads
    rw [readRange.eq_def] at reads
    split at reads
    · cases reads
    · cases reads
    · next lowerText upperText _ splits =>
        obtain ⟨rfl, -⟩ := splitOnce?_eq_some_iff.mp splits
        simp only [bind_eq_ok_iff, readVersion_eq_ok_iff] at reads
        obtain ⟨lower, readsLower, upper, readsUpper, reads⟩ := reads
        split at reads
        · next below =>
            cases reads
            exact ⟨lower, upper, rfl, lowerText, upperText, rfl, readsLower, readsUpper, below⟩
        · cases reads
  · rintro ⟨lower, upper, rfl, lowerText, upperText, spelled, readsLower, readsUpper, below⟩
    simp only [List.cons.injEq, true_and] at spelled
    have noSign : '<' ∉ lowerText :=
      Version.not_mem_of_parseList_trimList readsLower (by decide) (by decide)
    have noEquals : '=' ∉ upperText :=
      Version.not_mem_of_parseList_trimList readsUpper (by decide) (by decide)
    rw [readRange.eq_def, splitOnce?_eq_some_iff.mpr ⟨spelled, noSign⟩]
    split
    · next found => cases found
    · next found =>
        cases found
        exact absurd List.mem_cons_self noEquals
    · next found =>
        cases found
        simp only [bind_eq_ok_iff, readVersion_eq_ok_iff]
        exact ⟨lower, readsLower, upper, readsUpper, by rw [if_pos below]; rfl⟩

theorem readWildcard_eq_ok_iff :
    readWildcard expression stem = .ok constraint ↔
      ∃ majorText minorText major minor, stem = majorText ++ '.' :: minorText ∧
        SpellsSigned majorText major ∧ SpellsSigned minorText minor ∧
          constraint = .minorWildcard major minor := by
  rw [readWildcard.eq_def]
  constructor
  · intro reads
    split at reads
    · cases reads
    · next majorText minorText splits =>
        simp only [bind_eq_ok_iff, mapError_eq_ok_iff, parse_unsigned64_eq_ok_iff] at reads
        obtain ⟨_, ⟨major, rfl, spellsMajor⟩, _, ⟨minor, rfl, spellsMinor⟩, reads⟩ := reads
        cases reads
        exact ⟨majorText, minorText, major, minor, (splitOnce?_eq_some_iff.mp splits).1,
          spellsMajor, spellsMinor, rfl⟩
  · rintro ⟨majorText, minorText, major, minor, rfl, spellsMajor, spellsMinor, rfl⟩
    rw [splitOnce?_eq_some_iff.mpr ⟨rfl, spellsMajor.noPoint⟩]
    simp only [bind_eq_ok_iff, mapError_eq_ok_iff, parse_unsigned64_eq_ok_iff]
    exact ⟨major, ⟨major, rfl, spellsMajor⟩, minor, ⟨minor, rfl, spellsMinor⟩, rfl⟩

/-- Texts that begin with a digit or a plus sign are decided by their ends. -/
theorem parseTrimmed_of_first {rest : List Char} (spelled : text = c :: rest)
    (first : c.isDigit = true ∨ c = '+') :
    parseTrimmed text =
      match wildcardStem? text with
      | some stem => readWildcard (String.ofList text) stem
      | none => (readVersion text).map .exact := by
  have notStar : c ≠ '*' := by rintro rfl; simp at first
  have notRange : c ≠ '>' := by rintro rfl; simp at first
  rw [parseTrimmed.eq_def]
  split
  · cases spelled
  · exact absurd (List.cons.inj spelled).1.symm notStar
  · exact absurd (List.cons.inj spelled).1.symm notRange
  · rfl

/-- A text without white space at its ends reads as a constraint exactly if it spells it. -/
theorem parseTrimmed_eq_ok_iff (trimmed : trimList text = text) :
    parseTrimmed text = .ok constraint ↔ Spells text constraint := by
  constructor
  · intro reads
    rw [parseTrimmed.eq_def] at reads
    split at reads
    · cases reads
      exact .nothing
    · cases reads
      exact .star
    · obtain ⟨lower, upper, rfl, isRange⟩ := readRange_eq_ok_iff.mp reads
      exact .range isRange
    · split at reads
      · next stem found =>
          obtain ⟨mark, isMark, rfl⟩ := wildcardStem?_eq_some_iff.mp found
          obtain ⟨majorText, minorText, major, minor, rfl, spellsMajor, spellsMinor, rfl⟩ :=
            readWildcard_eq_ok_iff.mp reads
          exact .minorWildcard
            ⟨majorText, minorText, mark, spellsMajor, spellsMinor, isMark, by simp⟩
      · next plain =>
          obtain ⟨version, readsVersion, rfl⟩ := exists_of_map_eq_ok reads
          rw [readVersion_eq_ok_iff, trimmed] at readsVersion
          exact .exact readsVersion (wildcardStem?_eq_none_iff.mp plain)
  · intro spells
    cases spells with
    | nothing => rfl
    | star => rfl
    | exact reads plain =>
        obtain ⟨c, rest, spelled, digit⟩ := Version.digit_first_of_parseList reads
        rw [parseTrimmed_of_first spelled (.inl digit), wildcardStem?_eq_none_iff.mpr plain]
        exact map_eq_ok_iff.mpr ⟨_, readVersion_eq_ok_iff.mpr (by rwa [trimmed]), rfl⟩
    | minorWildcard isWildcard =>
        obtain ⟨majorText, minorText, mark, spellsMajor, spellsMinor, isMark, spelled⟩ := isWildcard
        obtain ⟨c, rest, same, first⟩ := spellsMajor.first
        have begins : text = c :: (rest ++ '.' :: (minorText ++ ['.', mark])) := by
          rw [spelled, same, List.cons_append]
        have found : wildcardStem? text = some (majorText ++ '.' :: minorText) :=
          wildcardStem?_eq_some_iff.mpr ⟨mark, isMark, by simp [spelled]⟩
        rw [parseTrimmed_of_first begins first, found]
        exact readWildcard_eq_ok_iff.mpr
          ⟨majorText, minorText, _, _, rfl, spellsMajor, spellsMinor, rfl⟩
    | range isRange =>
        obtain ⟨lowerText, upperText, rfl, readsLower, readsUpper, below⟩ := isRange
        exact readRange_eq_ok_iff.mpr
          ⟨_, _, rfl, lowerText, upperText, rfl, readsLower, readsUpper, below⟩

theorem parseStrict_eq_ok_iff :
    parseStrict expression = .ok constraint ↔ Spells (trimList expression.toList) constraint :=
  parseTrimmed_eq_ok_iff (trimList_trimList _)

end VersionConstraint

end PluginHost
