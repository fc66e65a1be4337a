import PluginHost.Proofs.Version.Constraint

/-!
# Exact versions and minor wildcards

Which texts take the exact form and which the form of a minor wildcard.  A version pins itself
unless its text ends as a minor wildcard does, which the last of several identifiers can bring
about.  Such a version is read as a wildcard that is malformed, so that the lenient reading lets
every version pass.  The numbers of a minor wildcard may have a plus sign.
-/

namespace PluginHost

open Text

namespace VersionConstraint

variable {text stem : List Char} {mark : Char} {expression : String} {version : Version}
  {major minor : Nat}

theorem spellsNumber_toDigits {value : Nat} (fits : value ≤ Version.greatestNumber) :
    SpellsNumber (Nat.toDigits 10 value) value where
  numeral := isNumeral_toDigits value
  value_eq := Nat.ofDigitChars_ten_toDigits.symm
  fits := fits

theorem IsMark.isDigit_eq_false (isMark : IsMark mark) : mark.isDigit = false := by
  rcases isMark with rfl | rfl | rfl <;> rfl

/-- The final part of a version that ends in a mark lies behind its second number. -/
theorem stem_of_text_eq (isMark : IsMark mark)
    (spelled : version.text.toList = stem ++ ['.', mark]) :
    ∃ more, stem = Nat.toDigits 10 version.major ++ '.' ::
      (Nat.toDigits 10 version.minor ++ '.' :: more) := by
  obtain ⟨digit, digits, patch, isDigit⟩ := (isNumeral_toDigits version.patch).exists_first
  have numbers :
      (Nat.toDigits 10 version.major ++ '.' :: (Nat.toDigits 10 version.minor ++ ['.'])) ++
        (digit :: (digits ++ version.tail)) = stem ++ ['.', mark] := by
    rw [← spelled, Version.toList_text, patch]
    simp
  rcases List.append_eq_append_iff.mp numbers with ⟨more, same, -⟩ | ⟨between, -, last⟩
  · exact ⟨more, by simp [same]⟩
  · -- Otherwise the final part would begin in the third number, with a digit in place of the mark.
    have markNotDigit := isMark.isDigit_eq_false
    match between with
    | [] =>
        obtain ⟨rfl, -⟩ := List.cons.inj last
        exact absurd isDigit (by decide)
    | [_] =>
        obtain ⟨-, last⟩ := List.cons.inj last
        obtain ⟨rfl, -⟩ := List.cons.inj last
        rw [markNotDigit] at isDigit
        cases isDigit
    | _ :: _ :: _ => simp at last

theorem readWildcard_of_text_eq (wellFormed : version.WellFormed) (isMark : IsMark mark)
    (spelled : version.text.toList = stem ++ ['.', mark]) :
    readWildcard expression stem = .error (.badMinor expression .invalidDigit) := by
  obtain ⟨more, rfl⟩ := stem_of_text_eq isMark spelled
  have major : SpellsSigned (Nat.toDigits 10 version.major) version.major :=
    .inl (spellsNumber_toDigits wellFormed.major)
  have numeral := isNumeral_toDigits version.minor
  obtain ⟨digit, digits, minor, isDigit⟩ := numeral.exists_first
  have badMinor : IntegerRange.unsigned64.parse (Nat.toDigits 10 version.minor ++ '.' :: more) =
      .error .invalidDigit := by
    rw [minor, List.cons_append, IntegerRange.parse_of_digit_first isDigit, ← List.cons_append,
      ← minor]
    apply IntegerRange.digitsOnto_invalidDigit 0 (by decide) numeral.digits _ rfl
    rw [Nat.ofDigitChars_ten_toDigits]
    exact Int.ofNat_le.mpr wellFormed.minor
  have readsMajor := parse_unsigned64_eq_ok_iff.mpr ⟨version.major, rfl, major⟩
  rw [readWildcard.eq_def, splitOnce?_eq_some_iff.mpr ⟨rfl, major.noPoint⟩]
  simp only [readsMajor, badMinor]
  rfl

/-- A text stands for one version only: both readings take the version, and no other satisfies the
text. -/
structure Pins (expression : String) (version : Version) : Prop where
  strict : parseStrict expression = .ok (.exact version)
  lenient : parse expression = .exact version
  satisfies_iff : ∀ other, satisfies (some expression) other = true ↔ other = version

theorem pins_of_parseStrict (reads : parseStrict expression = .ok (.exact version)) :
    Pins expression version := by
  have lenient : parse expression = .exact version := by rw [parse, reads]
  refine ⟨reads, lenient, fun other => ?_⟩
  rw [satisfies, lenient, matchesVersion, beq_iff_eq]

/-- What becomes of a version that ends as a minor wildcard does. -/
theorem parseStrict_of_endsInMark (reads : Version.parse (trim expression) = .ok version)
    (ends : EndsInMark (trimList expression.toList)) :
    parseStrict expression = .error (.badMinor (trim expression) .invalidDigit) := by
  rw [Version.parse_trim] at reads
  obtain ⟨c, rest, first, digit⟩ := Version.digit_first_of_parseList reads
  obtain ⟨wellFormed, spelled⟩ := Version.parseList_eq_ok_iff.mp reads
  obtain ⟨stem, mark, isMark, ends⟩ := ends
  rw [parseStrict, parseTrimmed_of_first first (.inl digit),
    wildcardStem?_eq_some_iff.mpr ⟨mark, isMark, ends⟩]
  exact readWildcard_of_text_eq wellFormed isMark (spelled.symm.trans ends)

/-- A version pins itself exactly if its text does not end as a minor wildcard does; otherwise the
strict reading refuses it, and every version satisfies it. -/
theorem version_pins_iff (reads : Version.parse (trim expression) = .ok version) :
    (Pins expression version ↔ ¬ EndsInMark (trimList expression.toList)) ∧
      (EndsInMark (trimList expression.toList) →
        parseStrict expression = .error (.badMinor (trim expression) .invalidDigit) ∧
          ∀ other, satisfies (some expression) other = true) := by
  refine ⟨⟨fun pins ends => ?_, fun plain => ?_⟩, fun ends => ?_⟩
  · have refused := parseStrict_of_endsInMark reads ends
    rw [pins.strict] at refused
    cases refused
  · rw [Version.parse_trim] at reads
    exact pins_of_parseStrict (parseStrict_eq_ok_iff.mpr (.exact reads plain))
  · have refused := parseStrict_of_endsInMark reads ends
    refine ⟨refused, fun other => ?_⟩
    rw [satisfies, parse, refused]
    rfl

/-- Marks in front of the last identifier do not matter. -/
theorem version_pins_iff_innerMarks :
    Version.parse (trim " 1.2.3-x.1+b.X-y ") = .ok ⟨1, 2, 3, ["x", "1"], ["b", "X-y"]⟩ ∧
      Pins " 1.2.3-x.1+b.X-y " ⟨1, 2, 3, ["x", "1"], ["b", "X-y"]⟩ := by
  have reads : Version.parse (trim " 1.2.3-x.1+b.X-y ") =
      .ok ⟨1, 2, 3, ["x", "1"], ["b", "X-y"]⟩ := by decide +kernel
  have plain : ¬ EndsInMark (trimList " 1.2.3-x.1+b.X-y ".toList) :=
    wildcardStem?_eq_none_iff.mp (by decide +kernel)
  exact ⟨reads, (version_pins_iff reads).1.mpr plain⟩

/-- A version with the identifier `x` at its end is refused, and each other version satisfies it. -/
theorem not_pins_finalMark :
    Version.parse (trim "1.2.3-a.x") = .ok ⟨1, 2, 3, ["a", "x"], []⟩ ∧
      parseStrict "1.2.3-a.x" = .error (.badMinor "1.2.3-a.x" .invalidDigit) ∧
      parse "1.2.3-a.x" = .any ∧ satisfies (some "1.2.3-a.x") ⟨9, 9, 9, [], []⟩ = true ∧
      ¬ Pins "1.2.3-a.x" ⟨1, 2, 3, ["a", "x"], []⟩ := by
  refine ⟨by decide +kernel, by decide +kernel, by decide +kernel, by decide +kernel, ?_⟩
  intro pins
  have other : satisfies (some "1.2.3-a.x") ⟨9, 9, 9, [], []⟩ = true := by decide +kernel
  exact absurd ((pins.satisfies_iff _).mp other) (by decide)

/-! ### Minor wildcards -/

/-- Minor wildcards are the texts of two numbers and a mark, and what ends in a mark without being
one of them or a range is refused. -/
structure ReadsWildcards (IsNumber : List Char → Nat → Prop) (expression : String) : Prop where
  reads_iff : ∀ major minor, parseStrict expression = .ok (.minorWildcard major minor) ↔
    IsWildcard IsNumber (trimList expression.toList) major minor
  refuses : EndsInMark (trimList expression.toList) →
    (∀ major minor, ¬ IsWildcard IsNumber (trimList expression.toList) major minor) →
    (∀ lower upper, ¬ IsRange (trimList expression.toList) lower upper) →
      ∃ problem, parseStrict expression = .error problem

theorem Spells.isWildcard (spells : Spells text (.minorWildcard major minor)) :
    IsWildcard SpellsSigned text major minor := by
  cases spells with
  | minorWildcard isWildcard => exact isWildcard

/-- What ends in a mark and is accepted is a minor wildcard or a range. -/
theorem Spells.isWildcard_or_isRange {constraint : VersionConstraint}
    (spells : Spells text constraint) (ends : EndsInMark text) :
    (∃ major minor, IsWildcard SpellsSigned text major minor) ∨
      ∃ lower upper, IsRange text lower upper := by
  cases spells with
  | nothing => exact absurd ends (wildcardStem?_eq_none_iff.mp rfl)
  | star => exact absurd ends (wildcardStem?_eq_none_iff.mp rfl)
  | exact reads plain => exact absurd ends plain
  | minorWildcard isWildcard => exact .inl ⟨_, _, isWildcard⟩
  | range isRange => exact .inr ⟨_, _, isRange⟩

theorem readsWildcards_signed (expression : String) : ReadsWildcards SpellsSigned expression where
  reads_iff major minor := by
    rw [parseStrict_eq_ok_iff]
    exact ⟨Spells.isWildcard, .minorWildcard⟩
  refuses ends noWildcard noRange := by
    cases reads : parseStrict expression with
    | error problem => exact ⟨problem, rfl⟩
    | ok constraint =>
        have spells := parseStrict_eq_ok_iff.mp reads
        rcases spells.isWildcard_or_isRange ends with ⟨_, _, isWildcard⟩ | ⟨_, _, isRange⟩
        · exact absurd isWildcard (noWildcard _ _)
        · exact absurd isRange (noRange _ _)

theorem isWildcard_signed_iff (noSign : '+' ∉ text) :
    IsWildcard SpellsSigned text major minor ↔ IsWildcard SpellsNumber text major minor := by
  have plain {part : List Char} {value : Nat} (within : ∀ c ∈ part, c ∈ text)
      (spells : SpellsSigned part value) : SpellsNumber part value := by
    rcases spells with spells | ⟨digits, rfl, -⟩
    · exact spells
    · exact absurd (within '+' List.mem_cons_self) noSign
  constructor
  · rintro ⟨majorText, minorText, mark, spellsMajor, spellsMinor, isMark, rfl⟩
    refine ⟨majorText, minorText, mark, plain ?_ spellsMajor, plain ?_ spellsMinor, isMark, rfl⟩
    · intro c member
      simp [member]
    · intro c member
      simp [member]
  · rintro ⟨majorText, minorText, mark, spellsMajor, spellsMinor, isMark, rfl⟩
    exact ⟨majorText, minorText, mark, .inl spellsMajor, .inl spellsMinor, isMark, rfl⟩

/-- The numbers of minor wildcards are numerals that may have a plus sign, so that they are plain
numerals in every text without plus signs. -/
theorem readsWildcards_of_numerals (expression : String) :
    ReadsWildcards SpellsSigned expression ∧
      ('+' ∉ trimList expression.toList → ReadsWildcards SpellsNumber expression) := by
  have signed := readsWildcards_signed expression
  refine ⟨signed, fun noSign => ⟨fun major minor => ?_, fun ends noWildcard => ?_⟩⟩
  · rw [signed.reads_iff, isWildcard_signed_iff noSign]
  · apply signed.refuses ends
    intro major minor
    rw [isWildcard_signed_iff noSign]
    exact noWildcard major minor

/-- Numerals may begin with zeros and go up to the greatest number of 64 bits. -/
theorem readsWildcards_of_numerals_bounds :
    '+' ∉ trimList " 007.18446744073709551615.X ".toList ∧
      parseStrict " 007.18446744073709551615.X " = .ok (.minorWildcard 7 18446744073709551615) ∧
      IsWildcard SpellsNumber (trimList " 007.18446744073709551615.X ".toList)
        7 18446744073709551615 := by
  have noSign : '+' ∉ trimList " 007.18446744073709551615.X ".toList := by decide +kernel
  have reads : parseStrict " 007.18446744073709551615.X " =
      .ok (.minorWildcard 7 18446744073709551615) := by decide +kernel
  have plain := (readsWildcards_of_numerals " 007.18446744073709551615.X ").2 noSign
  exact ⟨noSign, reads, (plain.reads_iff _ _).mp reads⟩

/-- A number with a plus sign is no numeral, and yet it is read. -/
theorem not_readsWildcards_plusSign :
    parseStrict "+1.0.x" = .ok (.minorWildcard 1 0) ∧
      ¬ ReadsWildcards SpellsNumber "+1.0.x" := by
  have reads : parseStrict "+1.0.x" = .ok (.minorWildcard 1 0) := by decide +kernel
  refine ⟨reads, fun readsNumerals => ?_⟩
  obtain ⟨majorText, minorText, mark, ⟨numeral, -, -⟩, -, -, spelled⟩ :=
    (readsNumerals.reads_iff 1 0).mp reads
  have letters : trimList "+1.0.x".toList = ['+', '1', '.', '0', '.', 'x'] := by decide +kernel
  obtain ⟨c, rest, rfl, digit⟩ := numeral.exists_first
  rw [letters] at spelled
  obtain ⟨rfl, -⟩ := List.cons.inj spelled
  exact absurd digit (by decide)

end VersionConstraint

end PluginHost
