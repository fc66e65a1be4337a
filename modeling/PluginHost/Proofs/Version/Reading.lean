import PluginHost.Proofs.Decimal.Numeral
import PluginHost.Proofs.Steps
import PluginHost.Version.Parser

/-!
# The grammar of semantic versions

A text reads as a version exactly if it is the written form of a well-formed one: three numbers of
64 bits without leading zeros, then identifiers of letters, digits and hyphens, of which those of
pre-releases have no leading zeros either.  So every version has one spelling and is read back from
it.
-/

namespace PluginHost.Version

variable {part current : VersionPart} {text digits rest : List Char} {c : Char} {value : Nat}

/-! ### Numbers -/

theorem eq_nil_of_toDigits_eq_zero_cons (spelled : Nat.toDigits 10 value = '0' :: rest) :
    rest = [] := by
  induction value using Nat.strongRecOn generalizing rest with
  | ind value ih =>
      rw [Nat.toDigits_eq_if (by decide)] at spelled
      split at spelled
      · exact (List.cons.inj spelled).2.symm
      · next large =>
          obtain ⟨c, front, tens, -⟩ := (isNumeral_toDigits (value / 10)).exists_first
          rw [tens, List.cons_append] at spelled
          obtain ⟨rfl, -⟩ := List.cons.inj spelled
          -- Tens that begin with a zero are the zero, and there are more of them.
          have noFront := ih (value / 10) (by omega) tens
          have isZero : value / 10 = 0 := by
            rw [noFront] at tens
            have read := congrArg (Nat.ofDigitChars 10 · 0) tens
            simpa [Nat.ofDigitChars_cons] using read
          omega

theorem numberOnto_stops (stops : ∀ c ∈ rest.head?, c.isDigit = false) (value count : Nat) :
    numberOnto part value count rest = .ok (value, count, rest) := by
  cases rest with
  | nil => rfl
  | cons c rest => simp [numberOnto, stops c rfl]

/-- What is written of a number and what is still to be read spell the number that is read. -/
theorem spelled_of_numberOnto {count total result : Nat} (begun : 0 < count)
    (reads : numberOnto part value count text = .ok (result, total, rest)) :
    0 < total ∧ Nat.toDigits 10 value ++ text = Nat.toDigits 10 result ++ rest ∧
      (∀ c ∈ rest.head?, c.isDigit = false) ∧
      (value ≤ greatestNumber → result ≤ greatestNumber) := by
  induction text generalizing value count with
  | nil =>
      cases reads
      exact ⟨begun, rfl, nofun, id⟩
  | cons c text ih =>
      rw [numberOnto] at reads
      cases digit : c.isDigit with
      | false =>
          simp only [digit, Bool.not_false, if_true] at reads
          cases reads
          exact ⟨begun, rfl, by simp [digit], id⟩
      | true =>
          simp only [digit, Bool.not_true, Bool.false_eq_true, if_false] at reads
          split at reads
          · cases reads
          · next notZero =>
              have positive : 0 < value := by
                simp only [begun, decide_true, Bool.and_true, beq_iff_eq] at notZero
                omega
              split at reads
              · cases reads
              · next fits =>
                  obtain ⟨some, spelled, stops, bounded⟩ := ih (Nat.succ_pos count) reads
                  rw [toDigits_onto positive digit, List.append_assoc] at spelled
                  exact ⟨some, spelled, stops, fun _ => bounded (Nat.le_of_not_lt fits)⟩

theorem numberOnto_of_spelled (part : VersionPart) {count result : Nat} (begun : 0 < count)
    (stops : ∀ c ∈ rest.head?, c.isDigit = false)
    (spelled : Nat.toDigits 10 value ++ digits = Nat.toDigits 10 result)
    (fits : result ≤ greatestNumber) :
    ∃ total, numberOnto part value count (digits ++ rest) = .ok (result, total + 1, rest) := by
  induction digits generalizing value count with
  | nil =>
      have same : value = result := by
        simpa using congrArg (Nat.ofDigitChars 10 · 0) spelled
      obtain ⟨total, rfl⟩ := Nat.exists_eq_add_one.mpr begun
      exact ⟨total, by rw [List.nil_append, numberOnto_stops stops, same]⟩
  | cons c digits ih =>
      have digit : c.isDigit = true := by
        apply (isNumeral_toDigits result).digits
        simp [← spelled]
      have positive : 0 < value := by
        rcases Nat.eq_zero_or_pos value with rfl | positive
        · rw [Nat.toDigits_zero] at spelled
          exact absurd (eq_nil_of_toDigits_eq_zero_cons spelled.symm) (List.cons_ne_nil c digits)
        · exact positive
      have extended :
          Nat.toDigits 10 (value * 10 + digitValue c) ++ digits = Nat.toDigits 10 result := by
        rw [toDigits_onto positive digit, ← spelled, List.append_assoc]
        rfl
      have grows : value * 10 + digitValue c ≤ result := by
        have read := congrArg (Nat.ofDigitChars 10 · 0) extended
        simp only [Nat.ofDigitChars_append, Nat.ofDigitChars_ten_toDigits] at read
        rw [← read]
        exact le_ofDigitChars digits _
      obtain ⟨total, reads⟩ := ih (Nat.succ_pos count) extended
      refine ⟨total, ?_⟩
      have notOver : ¬ greatestNumber < value * 10 + digitValue c := by omega
      have notZero : value ≠ 0 := by omega
      rw [List.cons_append, numberOnto]
      simp [digit, notZero, notOver, reads]

theorem numberOnto_first (digit : c.isDigit = true) :
    numberOnto part 0 0 (c :: text) = numberOnto part (digitValue c) 1 text := by
  have small := digitValue_lt_ten digit
  have notOver : ¬ greatestNumber < digitValue c := by
    have large : 10 ≤ greatestNumber := by decide
    omega
  rw [numberOnto]
  simp [digit, notOver]

theorem readNumber_eq_ok_iff {read : Nat × List Char} :
    readNumber part text = .ok read ↔
      text = Nat.toDigits 10 read.1 ++ read.2 ∧ read.1 ≤ greatestNumber ∧
        ∀ c ∈ read.2.head?, c.isDigit = false := by
  obtain ⟨value, rest⟩ := read
  constructor
  · intro reads
    rw [readNumber] at reads
    cases text with
    | nil => cases reads
    | cons c text =>
        cases digit : c.isDigit with
        | false => simp [numberOnto, digit] at reads
        | true =>
            have small := digitValue_lt_ten digit
            rw [numberOnto_first digit] at reads
            split at reads
            · cases reads
            · cases reads
            · cases reads
            · next found =>
                cases reads
                obtain ⟨-, spelled, stops, bounded⟩ := spelled_of_numberOnto Nat.one_pos found
                rw [Nat.toDigits_of_lt_base small, digitChar_digitValue digit] at spelled
                have large : 10 ≤ greatestNumber := by decide
                exact ⟨spelled, bounded (by omega), stops⟩
  · rintro ⟨rfl, fits, stops⟩
    obtain ⟨c, digits, spelled, digit⟩ := (isNumeral_toDigits value).exists_first
    have begun : Nat.toDigits 10 (digitValue c) ++ digits = Nat.toDigits 10 value := by
      rw [Nat.toDigits_of_lt_base (digitValue_lt_ten digit), digitChar_digitValue digit, spelled]
      rfl
    obtain ⟨total, reads⟩ := numberOnto_of_spelled part Nat.one_pos stops begun fits
    rw [readNumber, spelled, List.cons_append, numberOnto_first digit, reads]

theorem readPoint_eq_ok_iff : readPoint part text = .ok rest ↔ text = '.' :: rest := by
  rw [readPoint.eq_def]
  split <;> simp_all [eq_comm]

/-! ### Identifiers -/

/-- Identifiers with points between them. -/
def joined (identifiers : List String) : List Char :=
  ['.'].intercalate (identifiers.map String.toList)

theorem joined_cons_cons (first second : String) (others : List String) :
    joined (first :: second :: others) = first.toList ++ '.' :: joined (second :: others) := by
  simp [joined, List.intercalate_cons_cons]

/-- An identifier of a pre-release or of build metadata. -/
structure IsIdentifier (part : VersionPart) (identifier : String) : Prop where
  notEmpty : identifier.toList ≠ []
  chars : ∀ c ∈ identifier.toList, isIdentifierChar c = true
  noLeadingZero : hasLeadingZero part identifier.toList = false

variable {segment : List Char} {done found identifiers : List String}

/-- A segment that is closed is an identifier. -/
theorem isIdentifier_of_closes {emptySegment leadingZero : VersionProblem} {closed : List String}
    (chars : ∀ c ∈ segment, isIdentifierChar c = true)
    (closes : (if segment.isEmpty then .error emptySegment
      else if hasLeadingZero part segment.reverse then .error leadingZero
      else .ok (String.ofList segment.reverse :: done)) = Except.ok closed) :
    ∃ identifier, closed = identifier :: done ∧ identifier.toList = segment.reverse ∧
      IsIdentifier part identifier := by
  split at closes
  · cases closes
  · next notEmpty =>
      split at closes
      · cases closes
      · next noZero =>
          cases closes
          refine ⟨_, rfl, String.toList_ofList, ?_, ?_, ?_⟩
          · simpa using notEmpty
          · simpa using chars
          · simpa using noZero

/-- What has been read of a segment and what is still to be read spell the identifiers that are
read. -/
theorem joined_of_identifiersOnto (chars : ∀ c ∈ segment, isIdentifierChar c = true)
    (reads : identifiersOnto part done segment text = .ok (found, rest)) :
    ∃ first others, found = done.reverse ++ first :: others ∧
      segment.reverse ++ text = joined (first :: others) ++ rest ∧
      (∀ identifier ∈ first :: others, IsIdentifier part identifier) ∧
      ∀ c ∈ rest.head?, isIdentifierChar c = false ∧ c ≠ '.' := by
  induction text generalizing done segment with
  | nil =>
      rw [identifiersOnto] at reads
      obtain ⟨closed, closes, same⟩ := exists_of_map_eq_ok reads
      cases same
      obtain ⟨last, rfl, letters, isIdentifier⟩ := isIdentifier_of_closes chars closes
      exact ⟨last, [], by simp, by simp [joined, letters], by simpa using isIdentifier, nofun⟩
  | cons c text ih =>
      rw [identifiersOnto] at reads
      cases letter : isIdentifierChar c with
      | true =>
          simp only [letter, if_true] at reads
          obtain ⟨first, others, same, spelled, areIdentifiers⟩ :=
            ih (List.forall_mem_cons.mpr ⟨letter, chars⟩) reads
          refine ⟨first, others, same, ?_, areIdentifiers⟩
          simpa using spelled
      | false =>
          simp only [letter, Bool.false_eq_true, if_false] at reads
          split at reads
          · cases reads
          · next closed closes =>
              obtain ⟨last, rfl, letters, isIdentifier⟩ := isIdentifier_of_closes chars closes
              split at reads
              · next point =>
                  obtain rfl : c = '.' := by simpa using point
                  obtain ⟨first, others, rfl, spelled, areIdentifiers, stops⟩ :=
                    ih (List.forall_mem_nil _) reads
                  have spelled : text = joined (first :: others) ++ rest := spelled
                  refine ⟨last, first :: others, by simp, ?_,
                    List.forall_mem_cons.mpr ⟨isIdentifier, areIdentifiers⟩, stops⟩
                  rw [joined_cons_cons, spelled, letters]
                  simp
              · next noPoint =>
                  cases reads
                  have noPoint : c ≠ '.' := by simpa using noPoint
                  exact ⟨last, [], by simp, by simp [joined, letters], by simpa using isIdentifier,
                    by simp [letter, noPoint]⟩

theorem identifiersOnto_letters {letters : List Char}
    (areLetters : ∀ c ∈ letters, isIdentifierChar c = true) :
    identifiersOnto part done segment (letters ++ text) =
      identifiersOnto part done (letters.reverse ++ segment) text := by
  induction letters generalizing segment with
  | nil => rfl
  | cons c letters ih =>
      obtain ⟨letter, others⟩ := List.forall_mem_cons.mp areLetters
      rw [List.cons_append, identifiersOnto]
      simp only [letter, if_true]
      rw [ih others, List.reverse_cons, List.append_assoc]
      rfl

theorem identifiersOnto_joined (done : List String) {first : String} {others : List String}
    (areIdentifiers : ∀ identifier ∈ first :: others, IsIdentifier part identifier)
    (stops : ∀ c ∈ rest.head?, isIdentifierChar c = false ∧ c ≠ '.') :
    identifiersOnto part done [] (joined (first :: others) ++ rest) =
      .ok (done.reverse ++ first :: others, rest) := by
  induction others generalizing first done with
  | nil =>
      obtain ⟨notEmpty, chars, noZero⟩ := areIdentifiers first List.mem_cons_self
      have alone : joined [first] = first.toList := by simp [joined]
      rw [alone, identifiersOnto_letters chars, identifiersOnto.eq_def]
      cases rest with
      | nil => simp [notEmpty, noZero, Except.map]
      | cons c rest =>
          obtain ⟨noLetter, noPoint⟩ := stops c rfl
          simp [notEmpty, noZero, noLetter, noPoint]
  | cons second others ih =>
      obtain ⟨isIdentifier, areIdentifiers⟩ := List.forall_mem_cons.mp areIdentifiers
      obtain ⟨notEmpty, chars, noZero⟩ := isIdentifier
      have point : isIdentifierChar '.' = false := by decide
      rw [joined_cons_cons, List.append_assoc, identifiersOnto_letters chars, List.cons_append,
        identifiersOnto]
      simp [notEmpty, noZero, point, ih _ areIdentifiers]

/-- Identifiers after their mark; without identifiers there is no mark either. -/
def marked (mark : Char) : List String → List Char
  | [] => []
  | first :: others => mark :: joined (first :: others)

/-- What follows identifiers, or their absence, does not continue them. -/
def StopsAt (mark : Char) : List String → List Char → Prop
  | [], rest => rest.head? ≠ some mark
  | _ :: _, rest => ∀ c ∈ rest.head?, isIdentifierChar c = false ∧ c ≠ '.'

theorem readMarked_eq_ok_iff {mark : Char} {read : List String × VersionPart × List Char} :
    readMarked part mark current text = .ok read ↔
      text = marked mark read.1 ++ read.2.2 ∧
        (∀ identifier ∈ read.1, IsIdentifier part identifier) ∧
        read.2.1 = (if read.1.isEmpty then current else part) ∧ StopsAt mark read.1 read.2.2 := by
  obtain ⟨found, next, rest⟩ := read
  constructor
  · intro reads
    rw [readMarked.eq_def] at reads
    split at reads
    · next c text =>
        split at reads
        · next isMark =>
            obtain rfl : c = mark := by simpa using isMark
            obtain ⟨⟨identifiers, after⟩, finds, same⟩ := exists_of_map_eq_ok reads
            cases same
            obtain ⟨first, others, rfl, spelled, areIdentifiers, stops⟩ :=
              joined_of_identifiersOnto (List.forall_mem_nil _) finds
            have spelled : text = joined (first :: others) ++ rest := spelled
            exact ⟨by simp [marked, spelled], areIdentifiers, rfl, stops⟩
        · next noMark =>
            cases reads
            exact ⟨rfl, nofun, rfl, by simpa [StopsAt] using noMark⟩
    · cases reads
      exact ⟨rfl, nofun, rfl, by simp [StopsAt]⟩
  · rintro ⟨spelled, areIdentifiers, named, stops⟩
    obtain rfl : text = marked mark found ++ rest := spelled
    obtain rfl : next = if found.isEmpty then current else part := named
    cases found with
    | nil =>
        cases rest with
        | nil => rfl
        | cons c rest =>
            have noMark : c ≠ mark := by simpa [StopsAt] using stops
            simp [readMarked, marked, noMark]
    | cons first others =>
        have reads := identifiersOnto_joined [] areIdentifiers stops
        simp only [List.reverse_nil, List.nil_append] at reads
        simp [readMarked, marked, reads, Except.map]

/-! ### Versions -/

/-- A version that has a spelling. -/
structure WellFormed (version : Version) : Prop where
  major : version.major ≤ greatestNumber
  minor : version.minor ≤ greatestNumber
  patch : version.patch ≤ greatestNumber
  preRelease : ∀ identifier ∈ version.preRelease, IsIdentifier .preRelease identifier
  build : ∀ identifier ∈ version.build, IsIdentifier .build identifier

/-- What is written of a version after its numbers. -/
def tail (version : Version) : List Char :=
  marked '-' version.preRelease ++ marked '+' version.build

variable {version : Version}

theorem toList_text (version : Version) :
    version.text.toList = Nat.toDigits 10 version.major ++ '.' ::
      (Nat.toDigits 10 version.minor ++ '.' ::
        (Nat.toDigits 10 version.patch ++ version.tail)) := by
  obtain ⟨major, minor, patch, preRelease, build⟩ := version
  have point : (toString ".").toList = ['.'] := rfl
  cases preRelease <;> cases build <;>
    simp [text, tail, marked, joined, String.toList_intercalate, Nat.toString_eq_repr, point]

theorem notDigit_of_mem_head?_marked {mark : Char} (noDigit : mark.isDigit = false)
    (stops : ∀ c ∈ rest.head?, c.isDigit = false) (identifiers : List String) :
    ∀ c ∈ (marked mark identifiers ++ rest).head?, c.isDigit = false := by
  cases identifiers with
  | nil => exact stops
  | cons first others => simpa [marked] using noDigit

theorem notDigit_of_mem_head?_tail (version : Version) :
    ∀ c ∈ version.tail.head?, c.isDigit = false := by
  rw [tail, ← List.append_nil (marked '+' _)]
  refine notDigit_of_mem_head?_marked rfl (notDigit_of_mem_head?_marked rfl ?_ _) _
  nofun

theorem stopsAt_preRelease (version : Version) :
    StopsAt '-' version.preRelease (marked '+' version.build) := by
  have noLetter : isIdentifierChar '+' = false := by decide
  cases version.preRelease <;> cases version.build <;> simp [StopsAt, marked, noLetter]

theorem stopsAt_nil (mark : Char) (identifiers : List String) : StopsAt mark identifiers [] := by
  cases identifiers <;> simp [StopsAt]

/-- A text reads as a version exactly if it is the written form of a well-formed one. -/
theorem parseList_eq_ok_iff :
    parseList text = .ok version ↔ version.WellFormed ∧ text = version.text.toList := by
  constructor
  · intro reads
    rw [parseList] at reads
    split at reads
    · cases reads
    · simp only [bind_eq_ok_iff, readNumber_eq_ok_iff, readPoint_eq_ok_iff,
        readMarked_eq_ok_iff] at reads
      obtain ⟨⟨major, _⟩, ⟨rfl, majorFits, -⟩, _, rfl, ⟨minor, _⟩, ⟨rfl, minorFits, -⟩, _, rfl,
        ⟨patch, _⟩, ⟨rfl, patchFits, -⟩, ⟨preRelease, current, _⟩, ⟨rfl, preReleases, -⟩,
        ⟨build, next, rest⟩, ⟨rfl, builds, -⟩, reads⟩ := reads
      cases rest with
      | nil =>
          cases reads
          exact ⟨⟨majorFits, minorFits, patchFits, preReleases, builds⟩,
            by simp [toList_text, tail]⟩
      | cons c rest => cases reads
  · rintro ⟨wellFormed, rfl⟩
    have notEmpty : version.text.toList.isEmpty = false := by
      rw [toList_text]
      simp
    have point : ∀ (c : Char) (rest : List Char), c ∈ ('.' :: rest).head? → c.isDigit = false := by
      rintro c rest ⟨⟩
      rfl
    rw [parseList, notEmpty]
    simp only [Bool.false_eq_true, if_false, bind_eq_ok_iff, readNumber_eq_ok_iff,
      readPoint_eq_ok_iff, readMarked_eq_ok_iff]
    let current : VersionPart := if version.preRelease.isEmpty then .patch else .preRelease
    exact ⟨(version.major, _), ⟨toList_text version, wellFormed.major, fun c => point c _⟩, _, rfl,
      (version.minor, _), ⟨rfl, wellFormed.minor, fun c => point c _⟩, _, rfl,
      (version.patch, version.tail),
      ⟨rfl, wellFormed.patch, notDigit_of_mem_head?_tail version⟩,
      (version.preRelease, current, marked '+' version.build),
      ⟨rfl, wellFormed.preRelease, rfl, stopsAt_preRelease version⟩,
      (version.build, if version.build.isEmpty then current else .build, []),
      ⟨(List.append_nil _).symm, wellFormed.build, rfl, stopsAt_nil '+' _⟩, rfl⟩

theorem parse_eq_ok_iff {expression : String} :
    parse expression = .ok version ↔ version.WellFormed ∧ expression = version.text := by
  rw [parse, parseList_eq_ok_iff, String.toList_inj]

/-! ### The characters of a version -/

/-- A character that can stand in a version. -/
def IsVersionChar (c : Char) : Prop :=
  isIdentifierChar c = true ∨ c = '.' ∨ c = '+'

instance (c : Char) : Decidable (IsVersionChar c) :=
  inferInstanceAs (Decidable (_ ∨ _))

theorem isVersionChar_of_digit (digit : c.isDigit = true) : IsVersionChar c :=
  .inl (by simp [isIdentifierChar, Char.isAlphanum, digit])

theorem isVersionChar_of_mem_joined
    (areIdentifiers : ∀ identifier ∈ identifiers, IsIdentifier part identifier)
    (member : c ∈ joined identifiers) : IsVersionChar c := by
  induction identifiers with
  | nil => simp [joined] at member
  | cons first others ih =>
      obtain ⟨isIdentifier, areIdentifiers⟩ := List.forall_mem_cons.mp areIdentifiers
      cases others with
      | nil => exact .inl (isIdentifier.chars c (by simpa [joined] using member))
      | cons second others =>
          rw [joined_cons_cons, List.mem_append, List.mem_cons] at member
          rcases member with inFirst | rfl | inOthers
          · exact .inl (isIdentifier.chars c inFirst)
          · exact .inr (.inl rfl)
          · exact ih areIdentifiers inOthers

theorem isVersionChar_of_mem_marked {mark : Char} (isMark : IsVersionChar mark)
    (areIdentifiers : ∀ identifier ∈ identifiers, IsIdentifier part identifier)
    (member : c ∈ marked mark identifiers) : IsVersionChar c := by
  cases identifiers with
  | nil => cases member
  | cons first others =>
      rcases List.mem_cons.mp member with rfl | inJoined
      · exact isMark
      · exact isVersionChar_of_mem_joined areIdentifiers inJoined

theorem WellFormed.isVersionChar (wellFormed : version.WellFormed)
    (member : c ∈ version.text.toList) : IsVersionChar c := by
  have number {value : Nat} (member : c ∈ Nat.toDigits 10 value) : IsVersionChar c :=
    isVersionChar_of_digit ((isNumeral_toDigits value).digits c member)
  simp only [toList_text, tail, List.mem_append, List.mem_cons] at member
  rcases member with inMajor | rfl | inMinor | rfl | inPatch | inPreRelease | inBuild
  · exact number inMajor
  · exact .inr (.inl rfl)
  · exact number inMinor
  · exact .inr (.inl rfl)
  · exact number inPatch
  · exact isVersionChar_of_mem_marked (.inl rfl) wellFormed.preRelease inPreRelease
  · exact isVersionChar_of_mem_marked (.inr (.inr rfl)) wellFormed.build inBuild

end PluginHost.Version
