import PluginHost.Proofs.Version.Forms

/-!
# Written constraints

A constraint that is read is written in a form that reads as the same constraint.  Its written form
is never taken for another form, whatever identifiers its versions have.
-/

namespace PluginHost

open Text

/-! ### The order of versions -/

namespace Version

theorem compareLists_self {compareItems : String → String → Ordering}
    (same : ∀ item, compareItems item item = .eq) (items : List String) :
    compareLists compareItems items items = .eq := by
  induction items with
  | nil => rfl
  | cons item items ih => rw [compareLists, same, ih]; rfl

theorem compareIdentifiers_self (identifier : String) :
    compareIdentifiers identifier identifier = .eq := by
  rw [compareIdentifiers]
  cases isNumeric identifier <;> simp

theorem compareBuildIdentifiers_self (identifier : String) :
    compareBuildIdentifiers identifier identifier = .eq := by
  rw [compareBuildIdentifiers]
  cases isNumeric identifier <;> simp

theorem order_self (version : Version) : version.order version = .eq := by
  have preRelease : comparePreReleases version.preRelease version.preRelease = .eq := by
    cases version.preRelease with
    | nil => rfl
    | cons first others => exact compareLists_self compareIdentifiers_self _
  rw [order, preRelease, compareLists_self compareBuildIdentifiers_self]
  simp

theorem isBelow_self (version : Version) : version.isBelow version = false := by
  rw [isBelow, order_self]
  rfl

end Version

namespace VersionConstraint

variable {text : List Char} {expression : String} {constraint : VersionConstraint}
  {lower upper : Version} {major minor : Nat}

/-! ### The written forms -/

theorem toList_text_minorWildcard (major minor : Nat) :
    (VersionConstraint.minorWildcard major minor).text.toList =
      Nat.toDigits 10 major ++ '.' :: (Nat.toDigits 10 minor ++ ['.', 'x']) := by
  have same (written : String) : toString written = written := rfl
  simp [VersionConstraint.text, Nat.toString_eq_repr, same]

theorem toList_text_range (lower upper : Version) :
    (VersionConstraint.range lower upper).text.toList =
      '>' :: '=' :: ((lower.text.toList ++ [' ']) ++ '<' :: upper.text.toList) := by
  have same (written : String) : toString written = written := rfl
  simp [VersionConstraint.text, same]

theorem isTrimmed_star : IsTrimmed ['*'] :=
  isTrimmed_of_noBlank (List.forall_mem_singleton.mpr rfl)

theorem isTrimmed_text_minorWildcard (major minor : Nat) :
    IsTrimmed (VersionConstraint.minorWildcard major minor).text.toList := by
  apply isTrimmed_of_noBlank
  intro c member
  have number {value : Nat} (member : c ∈ Nat.toDigits 10 value) : isBlank c = false :=
    (Version.isVersionChar_of_digit ((isNumeral_toDigits value).digits c member)).isBlank_eq_false
  simp only [toList_text_minorWildcard, List.mem_append, List.mem_cons, List.not_mem_nil,
    or_false] at member
  rcases member with inMajor | rfl | inMinor | rfl | rfl
  · exact number inMajor
  · rfl
  · exact number inMinor
  · rfl
  · rfl

theorem isTrimmed_text_range (wellFormed : upper.WellFormed) :
    IsTrimmed (VersionConstraint.range lower upper).text.toList where
  head c found := by
    rw [toList_text_range] at found
    obtain rfl := Option.some.inj found
    rfl
  last c found := by
    have notEmpty : upper.text.toList ≠ [] := by
      obtain ⟨_, _, spelled, -⟩ :=
        Version.digit_first_of_parseList (Version.parseList_eq_ok_iff.mpr ⟨wellFormed, rfl⟩)
      simp [spelled]
    have endsInUpper : (VersionConstraint.range lower upper).text.toList =
        ('>' :: '=' :: (lower.text.toList ++ [' ', '<'])) ++ upper.text.toList := by
      rw [toList_text_range]
      simp
    rw [endsInUpper, List.getLast?_append, List.getLast?_eq_some_getLast notEmpty,
      Option.some_or] at found
    obtain rfl := Option.some.inj found
    exact (wellFormed.isVersionChar (List.getLast_mem notEmpty)).isBlank_eq_false

theorem trimList_text_space {version : Version} (wellFormed : version.WellFormed) :
    trimList (version.text.toList ++ [' ']) = version.text.toList := by
  have blank : ∀ c ∈ [' '], isBlank c = true := List.forall_mem_singleton.mpr rfl
  have surrounded : trimList ([] ++ version.text.toList ++ [' ']) = version.text.toList :=
    trimList_surrounded wellFormed.isTrimmed_text nofun blank
  simpa using surrounded

/-- The written form of what a text spells spells it too. -/
theorem Spells.spells_text (spells : Spells text constraint) :
    Spells constraint.text.toList constraint ∧ IsTrimmed constraint.text.toList := by
  cases spells with
  | nothing => exact ⟨.star, isTrimmed_star⟩
  | star => exact ⟨.star, isTrimmed_star⟩
  | exact reads plain =>
      obtain ⟨wellFormed, rfl⟩ := Version.parseList_eq_ok_iff.mp reads
      exact ⟨.exact reads plain, wellFormed.isTrimmed_text⟩
  | minorWildcard isWildcard =>
      obtain ⟨_, _, _, spellsMajor, spellsMinor, -, -⟩ := isWildcard
      refine ⟨.minorWildcard ?_, isTrimmed_text_minorWildcard _ _⟩
      exact ⟨_, _, 'x', .inl (spellsNumber_toDigits spellsMajor.fits),
        .inl (spellsNumber_toDigits spellsMinor.fits), .inl rfl, toList_text_minorWildcard _ _⟩
  | range isRange =>
      obtain ⟨_, _, -, readsLower, readsUpper, below⟩ := isRange
      obtain ⟨lowerFormed, lowerText⟩ := Version.parseList_eq_ok_iff.mp readsLower
      obtain ⟨upperFormed, upperText⟩ := Version.parseList_eq_ok_iff.mp readsUpper
      refine ⟨.range ⟨_, _, toList_text_range _ _, ?_, ?_, below⟩, isTrimmed_text_range upperFormed⟩
      · rwa [trimList_text_space lowerFormed, ← lowerText]
      · rwa [trimList_of_isTrimmed upperFormed.isTrimmed_text, ← upperText]

theorem parseStrict_text (reads : parseStrict expression = .ok constraint) :
    parseStrict constraint.text = .ok constraint := by
  obtain ⟨spells, trimmed⟩ := (parseStrict_eq_ok_iff.mp reads).spells_text
  rw [parseStrict_eq_ok_iff, trimList_of_isTrimmed trimmed]
  exact spells

theorem Spells.isRange (spells : Spells text (.range lower upper)) : IsRange text lower upper := by
  cases spells with
  | range isRange => exact isRange

/-- A constraint that an expression is read as is what its written form is read as, the two match
the same versions, and a range is between two versions of which it has the first only. -/
structure IsCanonical (expression : String) (constraint : VersionConstraint) : Prop where
  reads : parseStrict constraint.text = .ok constraint
  written : ∀ again, parseStrict constraint.text = .ok again → again.text = constraint.text
  same : ∀ version,
    satisfies (some constraint.text) version = satisfies (some expression) version
  bounds : ∀ lower upper, constraint = .range lower upper →
    lower.isBelow upper = true ∧ constraint.matchesVersion lower = true ∧
      constraint.matchesVersion upper = false

theorem isCanonical_of_parseStrict (reads : parseStrict expression = .ok constraint) :
    IsCanonical expression constraint := by
  have again := parseStrict_text reads
  refine ⟨again, ?_, ?_, ?_⟩
  · intro other readsOther
    rw [again] at readsOther
    cases readsOther
    rfl
  · intro version
    rw [satisfies, satisfies, parse, parse, again, reads]
  · rintro lower upper rfl
    obtain ⟨_, _, -, -, -, below⟩ := (parseStrict_eq_ok_iff.mp reads).isRange
    refine ⟨below, ?_, ?_⟩
    · rw [matchesVersion, Version.isBelow_self, below]
      rfl
    · rw [matchesVersion, Version.isBelow_self, Bool.and_false]

/-- The versions of a range may end in the marks of minor wildcards. -/
theorem isCanonical_of_parseStrict_marks :
    parseStrict " >= 1.2.3-a.x+b.X  <1.2.4-a.x " =
        .ok (.range ⟨1, 2, 3, ["a", "x"], ["b", "X"]⟩ ⟨1, 2, 4, ["a", "x"], []⟩) ∧
      IsCanonical " >= 1.2.3-a.x+b.X  <1.2.4-a.x "
        (.range ⟨1, 2, 3, ["a", "x"], ["b", "X"]⟩ ⟨1, 2, 4, ["a", "x"], []⟩) := by
  have reads : parseStrict " >= 1.2.3-a.x+b.X  <1.2.4-a.x " =
      .ok (.range ⟨1, 2, 3, ["a", "x"], ["b", "X"]⟩ ⟨1, 2, 4, ["a", "x"], []⟩) := by
    decide +kernel
  exact ⟨reads, isCanonical_of_parseStrict reads⟩

end VersionConstraint

end PluginHost
