import PluginHost.Proofs.Decimal.IntegerText
import PluginHost.Proofs.Text.Blank
import PluginHost.Proofs.Tool.TypedValues

/-!
# Numbers as texts

A parameter of integers takes the texts that spell an integer of 64 bits, signed or not, and what is
written of such an integer is read back as the integer.  A parameter of numbers takes these texts
too, but reads doubles: it gets the nearest double, which is the integer only where a double stands
for it.
-/

namespace PluginHost

open Coercion Text

variable {name : String} {text : List Char} {value : Int}

/-! ### Integers -/

/-- The two ranges that are tried in turn leave no gap. -/
theorem parseInteger?_eq_some_iff {number : JsonNumber} :
    parseInteger? text = some number ↔
      ∃ value inRange, SpellsInteger text value ∧ number = .integer value inRange := by
  have positive : (0 : Int) < Int.pow 2 63 := by decide
  have larger : Int.pow 2 63 < Int.pow 2 64 := by decide
  have signed {value : Int} : IntegerRange.signed64.parse text = .ok value ↔
      SpellsInteger text value ∧ -Int.pow 2 63 ≤ value ∧ value ≤ Int.pow 2 63 - 1 :=
    IntegerRange.parse_eq_ok_iff_spellsInteger (by decide) (by decide)
  constructor
  · intro parses
    rw [parseInteger?] at parses
    split at parses
    · next value reads =>
        obtain ⟨inRange, same⟩ := JsonNumber.ofInt?_eq_some_iff.mp parses
        exact ⟨value, inRange, (signed.mp reads).1, same⟩
    · split at parses
      · next value reads =>
          obtain ⟨inRange, same⟩ := JsonNumber.ofInt?_eq_some_iff.mp parses
          have spells := IntegerRange.spellsInteger_of_parse rfl (by decide) reads
          exact ⟨value, inRange, spells.1, same⟩
      · cases parses
  · rintro ⟨value, inRange, spells, rfl⟩
    have taken : JsonNumber.ofInt? value = some (.integer value inRange) := dif_pos inRange
    obtain ⟨low, high⟩ := inRange
    rw [parseInteger?]
    rcases Int.lt_or_le (Int.pow 2 63 - 1) value with beyond | within
    · -- The signed reading refuses the text, since the text spells no other integer.
      have unread (other : Int) : IntegerRange.signed64.parse text ≠ .ok other := by
        intro reads
        obtain ⟨again, -, bound⟩ := signed.mp reads
        have same := spells.unique again
        omega
      have reads : IntegerRange.unsigned64.parse text = .ok value := by
        have bound : value ≤ Int.pow 2 64 - 1 := by omega
        exact IntegerRange.parse_of_spellsInteger rfl spells (by omega) bound
      cases refused : IntegerRange.signed64.parse text with
      | ok other => exact absurd refused (unread other)
      | error problem =>
          dsimp only
          rw [reads]
          exact taken
    · rw [signed.mpr ⟨spells, low, within⟩]
      exact taken

theorem coerce_integer_text_of_parses {text : String} {number : JsonNumber}
    (parses : parseInteger? (trimList text.toList) = some number) :
    coerce name .integer (.string text) = .ok (.number number) := by
  rw [coerce_eq_ok_iff, convert?, parses]
  rfl

theorem coerce_integer_text_eq_ok_iff {text : String} {result : Json} :
    coerce name .integer (.string text) = .ok result ↔
      ∃ value inRange, SpellsInteger (trimList text.toList) value ∧
        result = .number (.integer value inRange) := by
  constructor
  · intro coerces
    obtain ⟨_, parses, rfl⟩ := Option.map_eq_some_iff.mp (coerce_eq_ok_iff.mp coerces)
    obtain ⟨value, inRange, spells, rfl⟩ := parseInteger?_eq_some_iff.mp parses
    exact ⟨value, inRange, spells, rfl⟩
  · rintro ⟨value, inRange, spells, rfl⟩
    apply coerce_integer_text_of_parses
    exact parseInteger?_eq_some_iff.mpr ⟨value, inRange, spells, rfl⟩

theorem isBlank_eq_false_of_spellsInteger (spells : SpellsInteger text value) {c : Char}
    (member : c ∈ text) : isBlank c = false := by
  have digits {digits : List Char} (numeral : IsNumeral digits) (member : c ∈ digits) :
      isBlank c = false := by
    apply isBlank_eq_false_of_isAlphanum
    simp [Char.isAlphanum, numeral.digits c member]
  cases spells with
  | bare numeral => exact digits numeral member
  | plus numeral =>
      rcases List.mem_cons.mp member with rfl | further
      · rfl
      · exact digits numeral further
  | minus numeral =>
      rcases List.mem_cons.mp member with rfl | further
      · rfl
      · exact digits numeral further

theorem trimList_intDigits (value : Int) : trimList (intDigits value) = intDigits value :=
  trimList_of_isTrimmed (isTrimmed_of_noBlank fun _ member =>
    isBlank_eq_false_of_spellsInteger (SpellsInteger.spelled_intDigits value) member)

/-- How parameters of integers, texts and truth values read what is written for each other. -/
structure ReadsBack (name : String) : Prop where
  /-- A text is taken for an integer if it spells one of 64 bits, signed or not, once white space is
  cut from its ends. -/
  integer_iff : ∀ text result, coerce name .integer (.string text) = .ok result ↔
    ∃ (value : Int) (inRange : -Int.pow 2 63 ≤ value ∧ value < Int.pow 2 64),
      SpellsInteger (trimList text.toList) value ∧ result = .number (.integer value inRange)
  /-- An integer is read back from the text that it becomes. -/
  integers : ∀ value inRange, ∃ text,
    coerce name .string (.number (.integer value inRange)) = .ok text ∧
      coerce name .integer text = .ok (.number (.integer value inRange))
  /-- A truth value is read back from the text that it becomes. -/
  booleans : ∀ flag, ∃ text, coerce name .string (.bool flag) = .ok text ∧
    coerce name .boolean text = .ok (.bool flag)

/-- Integers and truth values are read back from their texts. -/
theorem coerce_readsBack (name : String) : ReadsBack name where
  integer_iff text result := coerce_integer_text_eq_ok_iff
  integers value inRange := by
    refine ⟨.string (String.ofList (intDigits value)), coerce_eq_ok_iff.mpr rfl, ?_⟩
    refine coerce_integer_text_eq_ok_iff.mpr ⟨value, inRange, ?_, rfl⟩
    rw [String.toList_ofList, trimList_intDigits]
    exact SpellsInteger.spelled_intDigits value
  booleans flag := by
    cases flag with
    | true => exact ⟨.string "true", coerce_eq_ok_iff.mpr rfl, coerce_eq_ok_iff.mpr rfl⟩
    | false => exact ⟨.string "false", coerce_eq_ok_iff.mpr rfl, coerce_eq_ok_iff.mpr rfl⟩

/-! ### Integers where numbers are asked for -/

theorem natAbs_lt_of_isJsonInteger (inRange : IsJsonInteger value) : value.natAbs < 2 ^ 65 := by
  obtain ⟨low, high⟩ := inRange
  have lowBound : Int.pow 2 63 ≤ 2 ^ 64 := by decide
  have highBound : Int.pow 2 64 ≤ 2 ^ 64 := by decide
  omega

theorem coerce_number_text_of_parses {text : String} {double : Double}
    (parses : Double.parse? (trimList text.toList) = some double) :
    coerce name .number (.string text) = .ok (.number (.double double)) := by
  rw [coerce_eq_ok_iff, convert?, parses]
  rfl

/-- What a parameter of numbers gets for a text that spells an integer. -/
structure ReadAsNumber (name text : String) (value : Int) : Prop where
  /-- The text is accepted, and no double is nearer to the integer than the one that it becomes. -/
  nearest : ∃ double, coerce name .number (.string text) = .ok (.number (.double double)) ∧
    ∀ other : Double, (double.steps - value * stepsPerUnit).natAbs ≤
      (other.steps - value * stepsPerUnit).natAbs
  /-- That is the integer itself if 53 bits are enough for it, apart from zeros behind them. -/
  sameValue_iff : (∃ number, coerce name .number (.string text) = .ok (.number number) ∧
      number.steps = value * stepsPerUnit) ↔
    ∃ significand exponent, significand < 2 ^ 53 ∧ value.natAbs = significand * 2 ^ exponent

/-- A text that is accepted as an integer is accepted as a number, and becomes the nearest
double. -/
theorem coerce_readAsNumber {text : String} {inRange : IsJsonInteger value}
    (accepted : coerce name .integer (.string text) = .ok (.number (.integer value inRange))) :
    ReadAsNumber name text value := by
  obtain ⟨spelled, _, spells, same⟩ := coerce_integer_text_eq_ok_iff.mp accepted
  cases same
  have small := natAbs_lt_of_isJsonInteger inRange
  obtain ⟨double, reads, nearest⟩ := Double.exists_nearest_of_spellsInteger spells small
  have coerces : coerce name .number (.string text) = .ok (.number (.double double)) :=
    coerce_number_text_of_parses reads
  refine ⟨⟨double, coerces, nearest⟩, ?_⟩
  rw [← Double.exists_steps_eq_iff small]
  constructor
  · rintro ⟨number, again, exact⟩
    cases coerces.symm.trans again
    exact ⟨double, exact⟩
  · rintro ⟨exact, steps⟩
    have closest := nearest exact
    rw [steps] at closest
    refine ⟨.double double, coerces, ?_⟩
    change double.steps = value * stepsPerUnit
    omega

/-- The least signed integer, which is `-2 ^ 63`, is read as the number that it is. -/
theorem coerce_readAsNumber_least :
    let text := " -9223372036854775808 "
    let least : Int := -9223372036854775808
    coerce "p" .integer (.string text) = .ok (.number (.integer least (by decide))) ∧
      ReadAsNumber "p" text least ∧
        ∃ number, coerce "p" .number (.string text) = .ok (.number number) ∧
          number.steps = least * stepsPerUnit := by
  intro text least
  have accepted : coerce "p" .integer (.string text) =
      .ok (.number (.integer least (by decide))) := by
    apply coerce_integer_text_of_parses
    decide +kernel
  have reads := coerce_readAsNumber accepted
  exact ⟨accepted, reads, reads.sameValue_iff.mpr ⟨1, 63, by decide, by decide⟩⟩

/-- The double `2 ^ 53`. -/
def greatestDense : Double :=
  ⟨false, Nat.pow 2 52, 1075, by decide⟩

/-- The integer after `2 ^ 53` is accepted, and as a number it becomes `2 ^ 53`. -/
theorem not_sameValue_afterGreatestDense :
    let text := "9007199254740993"
    let value : Int := 9007199254740993
    coerce "p" .integer (.string text) = .ok (.number (.integer value (by decide))) ∧
      coerce "p" .number (.string text) = .ok (.number (.double greatestDense)) ∧
        greatestDense.steps = 9007199254740992 * stepsPerUnit ∧
          ¬ ∃ number, coerce "p" .number (.string text) = .ok (.number number) ∧
            number.steps = value * stepsPerUnit := by
  intro text value
  have accepted : coerce "p" .integer (.string text) =
      .ok (.number (.integer value (by decide))) := by
    apply coerce_integer_text_of_parses
    decide +kernel
  have becomes : coerce "p" .number (.string text) = .ok (.number (.double greatestDense)) := by
    apply coerce_number_text_of_parses
    decide +kernel
  have steps : greatestDense.steps = 9007199254740992 * stepsPerUnit := by decide +kernel
  refine ⟨accepted, becomes, steps, ?_⟩
  rintro ⟨number, again, same⟩
  cases becomes.symm.trans again
  have equal : (9007199254740992 : Int) = value :=
    Int.eq_of_mul_eq_mul_right stepsPerUnit_ne_zero (steps.symm.trans same)
  exact absurd equal (by decide)

end PluginHost
