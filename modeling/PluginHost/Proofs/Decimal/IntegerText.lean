import Mathlib.Data.List.TakeWhile
import PluginHost.Json.Printer
import PluginHost.Proofs.Decimal.Numeral
import PluginHost.Proofs.Decimal.Rounding

/-!
# Texts that spell integers

An integer is spelled by a numeral, which may follow a sign.  Reading into a range takes the spelled
integers that lie in it and nothing else.  Reading as a double takes them all while they are finite,
and gives a double nearest to the integer.
-/

namespace PluginHost

/-- A text spells an integer: it is a numeral, alone or after a sign. -/
inductive SpellsInteger : List Char → Int → Prop where
  | bare {digits : List Char} (numeral : IsNumeral digits) :
      SpellsInteger digits (Nat.ofDigitChars 10 digits 0 : Nat)
  | plus {digits : List Char} (numeral : IsNumeral digits) :
      SpellsInteger ('+' :: digits) (Nat.ofDigitChars 10 digits 0 : Nat)
  | minus {digits : List Char} (numeral : IsNumeral digits) :
      SpellsInteger ('-' :: digits) (-(Nat.ofDigitChars 10 digits 0 : Nat))

namespace SpellsInteger

variable {text digits : List Char} {value other : Int}

theorem not_isNumeral_signed {sign : Char} (notDigit : sign.isDigit = false) :
    ¬ IsNumeral (sign :: digits) := by
  intro numeral
  have digit := numeral.digits sign List.mem_cons_self
  rw [notDigit] at digit
  cases digit

theorem unique (spells : SpellsInteger text value) (again : SpellsInteger text other) :
    value = other := by
  cases spells with
  | bare numeral =>
      cases again with
      | bare _ => rfl
      | plus _ => exact absurd numeral (not_isNumeral_signed rfl)
      | minus _ => exact absurd numeral (not_isNumeral_signed rfl)
  | plus numeral =>
      cases again with
      | bare signed => exact absurd signed (not_isNumeral_signed rfl)
      | plus _ => rfl
  | minus numeral =>
      cases again with
      | bare signed => exact absurd signed (not_isNumeral_signed rfl)
      | minus _ => rfl

/-- Every integer is spelled by what is written of it. -/
theorem spelled_intDigits (value : Int) : SpellsInteger (intDigits value) value := by
  have numeral := isNumeral_toDigits value.natAbs
  have digits : Nat.ofDigitChars 10 (Nat.toDigits 10 value.natAbs) 0 = value.natAbs :=
    Nat.ofDigitChars_ten_toDigits
  rw [intDigits]
  split
  · next negative =>
      have spells := SpellsInteger.minus numeral
      have same : -(value.natAbs : Int) = value := by omega
      rwa [digits, same] at spells
  · next notNegative =>
      have spells := SpellsInteger.bare numeral
      have same : (value.natAbs : Int) = value := by omega
      rwa [digits, same] at spells

end SpellsInteger

namespace IntegerRange

variable {range : IntegerRange} {text : List Char} {value result : Int}

/-- The range of the integers of the other sign. -/
def opposite (range : IntegerRange) : IntegerRange :=
  ⟨-range.greatest, -range.least⟩

theorem digitsOnto_cons_eq_ok_iff {negative : Bool} {c : Char} {rest : List Char} :
    range.digitsOnto negative value (c :: rest) = .ok result ↔
      c.isDigit = true ∧ ∃ extended,
        extended = (if negative then value * 10 - digitValue c else value * 10 + digitValue c) ∧
          range.least ≤ extended ∧ extended ≤ range.greatest ∧
            range.digitsOnto negative extended rest = .ok result := by
  simp only [digitsOnto]
  generalize (if negative = true then value * 10 - (digitValue c : Int)
    else value * 10 + digitValue c) = extended
  cases c.isDigit with
  | false => simp
  | true =>
      rcases Int.lt_or_le range.greatest extended with tooLarge | notLarge
      · simp [tooLarge, Int.not_le.mpr tooLarge]
      · rcases Int.lt_or_le extended range.least with tooSmall | notSmall
        · simp [tooSmall, notLarge, Int.not_le.mpr tooSmall, Int.not_lt.mpr notLarge]
        · simp [notLarge, notSmall, Int.not_lt.mpr notLarge, Int.not_lt.mpr notSmall]

/-- Going down is going up in the opposite range. -/
theorem digitsOnto_true_eq_ok_iff :
    range.digitsOnto true value text = .ok result ↔
      range.opposite.digitsOnto false (-value) text = .ok (-result) := by
  induction text generalizing value with
  | nil =>
      simp only [digitsOnto, Except.ok.injEq]
      omega
  | cons c rest ih =>
      have mirrored : -value * 10 + (digitValue c : Int) = -(value * 10 - digitValue c) := by omega
      simp only [digitsOnto_cons_eq_ok_iff, if_true, Bool.false_eq_true, if_false, exists_eq_left,
        mirrored, ih]
      refine and_congr_right fun _ => ?_
      have low : range.opposite.least ≤ -(value * 10 - (digitValue c : Int)) ↔
          value * 10 - digitValue c ≤ range.greatest := Int.neg_le_neg_iff
      have high : -(value * 10 - (digitValue c : Int)) ≤ range.opposite.greatest ↔
          range.least ≤ value * 10 - digitValue c := Int.neg_le_neg_iff
      rw [low, high, and_left_comm]

theorem digitsOnto_down_eq_ok_iff (least : range.least ≤ 0) (greatest : 0 ≤ range.greatest) :
    range.digitsOnto true 0 text = .ok result ↔
      (∀ c ∈ text, c.isDigit = true) ∧ result = -(Nat.ofDigitChars 10 text 0 : Nat) ∧
        range.least ≤ result := by
  have oppositeLeast : -range.greatest ≤ 0 := by omega
  have oppositeGreatest : 0 ≤ -range.least := by omega
  have up : range.opposite.digitsOnto false 0 text = .ok (-result) ↔
      (∀ c ∈ text, c.isDigit = true) ∧ -result = (Nat.ofDigitChars 10 text 0 : Nat) ∧
        -result ≤ -range.least := digitsOnto_eq_ok_iff 0 oppositeLeast oppositeGreatest
  rw [digitsOnto_true_eq_ok_iff, Int.neg_zero, up]
  refine and_congr_right fun _ => ?_
  constructor
  · rintro ⟨same, fits⟩
    omega
  · rintro ⟨same, fits⟩
    omega

/-- Where a range has negative integers, its integers are read from all their spellings. -/
theorem parse_eq_ok_iff_spellsInteger (least : range.least < 0) (greatest : 0 ≤ range.greatest) :
    range.parse text = .ok result ↔
      SpellsInteger text result ∧ range.least ≤ result ∧ result ≤ range.greatest := by
  have up {digits : List Char} : range.digitsOnto false 0 digits = .ok result ↔
      (∀ c ∈ digits, c.isDigit = true) ∧ result = (Nat.ofDigitChars 10 digits 0 : Nat) ∧
        result ≤ range.greatest := digitsOnto_eq_ok_iff 0 (Int.le_of_lt least) greatest
  have down {digits : List Char} : range.digitsOnto true 0 digits = .ok result ↔ _ :=
    digitsOnto_down_eq_ok_iff (Int.le_of_lt least) greatest
  constructor
  · intro parses
    rw [parse.eq_def] at parses
    split at parses
    · cases parses
    · cases parses
    · cases parses
    · next digits notEmpty =>
        obtain ⟨areDigits, rfl, fits⟩ := up.mp parses
        exact ⟨.plus ⟨fun none => notEmpty none, areDigits⟩, by omega, fits⟩
    · next digits notEmpty =>
        rw [if_pos least] at parses
        obtain ⟨areDigits, rfl, fits⟩ := down.mp parses
        exact ⟨.minus ⟨fun none => notEmpty none, areDigits⟩, fits, by omega⟩
    · next notEmpty _ _ _ _ =>
        obtain ⟨areDigits, rfl, fits⟩ := up.mp parses
        exact ⟨.bare ⟨fun none => notEmpty none, areDigits⟩, by omega, fits⟩
  · rintro ⟨spells, low, high⟩
    cases spells with
    | bare numeral =>
        obtain ⟨c, rest, rfl, digit⟩ := numeral.exists_first
        rw [parse_of_digit_first digit]
        exact up.mpr ⟨numeral.digits, rfl, high⟩
    | plus numeral =>
        obtain ⟨c, rest, rfl, -⟩ := numeral.exists_first
        exact up.mpr ⟨numeral.digits, rfl, high⟩
    | minus numeral =>
        obtain ⟨c, rest, rfl, -⟩ := numeral.exists_first
        have reads := down.mpr ⟨numeral.digits, rfl, low⟩
        rw [parse.eq_def]
        exact (if_pos least).trans reads

theorem spellsInteger_of_parse (least : range.least = 0) (greatest : 0 ≤ range.greatest)
    (parses : range.parse text = .ok result) :
    SpellsInteger text result ∧ 0 ≤ result ∧ result ≤ range.greatest := by
  obtain ⟨digits, numeral, spelled, rfl, fits⟩ := (parse_eq_ok_iff least greatest).mp parses
  rcases spelled with rfl | rfl
  · exact ⟨.bare numeral, Int.natCast_nonneg _, fits⟩
  · exact ⟨.plus numeral, Int.natCast_nonneg _, fits⟩

theorem parse_of_spellsInteger (least : range.least = 0) (spells : SpellsInteger text result)
    (positive : 0 < result) (fits : result ≤ range.greatest) : range.parse text = .ok result := by
  refine (parse_eq_ok_iff least (by omega)).mpr ?_
  cases spells with
  | bare numeral => exact ⟨_, numeral, .inl rfl, rfl, fits⟩
  | plus numeral => exact ⟨_, numeral, .inr rfl, rfl, fits⟩
  | minus numeral => omega

end IntegerRange

namespace Double

variable {text digits : List Char} {value : Int}

theorem digitsValue_eq_ofDigitChars (digits : List Char) :
    digitsValue digits = Nat.ofDigitChars 10 digits 0 := by
  have onto (start : Nat) :
      digits.foldl (fun value digit => value * 10 + digitValue digit) start =
        Nat.ofDigitChars 10 digits start := by
    induction digits generalizing start with
    | nil => simp
    | cons c rest ih => rw [List.foldl_cons, ih, ofDigitChars_onto]
  exact onto 0

theorem parseUnsigned?_of_isNumeral (negative : Bool) (numeral : IsNumeral digits) :
    parseUnsigned? negative digits =
      ofScientific? negative (Nat.ofDigitChars 10 digits 0) 0 := by
  have whole : digits.takeWhile Char.isDigit = digits :=
    List.takeWhile_eq_self_iff.mpr numeral.digits
  have nothing : digits.dropWhile Char.isDigit = [] :=
    List.dropWhile_eq_nil_iff.mpr numeral.digits
  have notEmpty : digits.isEmpty = false := by simpa using numeral.notEmpty
  simp [parseUnsigned?, whole, nothing, notEmpty, digitsValue_eq_ofDigitChars]

theorem ofFraction?_zero (negative : Bool) : ofFraction? negative 0 1 = some (zero negative) := by
  rw [ofFraction?, Nat.zero_mul]
  rfl

theorem ofScientific?_whole (negative : Bool) {whole : Nat} (small : whole < 10 ^ 20) :
    ofScientific? negative whole 0 = ofFraction? negative whole 1 := by
  have few : (Nat.toDigits 10 whole).length ≤ 20 :=
    (Nat.length_toDigits_le_iff (by decide) (by decide)).mpr small
  have notLong : ¬ (400 : Int) < (Nat.toDigits 10 whole).length + 0 := by omega
  have notShort : ¬ ((Nat.toDigits 10 whole).length + 0 : Int) < -400 := by omega
  rcases Nat.eq_zero_or_pos whole with rfl | positive
  · exact (ofFraction?_zero negative).symm
  · have notZero : (whole == 0) = false := by simpa using Nat.ne_of_gt positive
    simp only [ofScientific?, notZero, notLong, notShort, decide_false, Bool.or_self,
      Bool.false_eq_true, if_false]
    rw [show Nat.pow 10 (0 : Int).toNat = 1 from rfl, Nat.mul_one]
    rfl

theorem parse?_of_digit_first {c : Char} {rest : List Char} (digit : c.isDigit = true) :
    parse? (c :: rest) = parseUnsigned? false (c :: rest) := by
  rw [parse?.eq_def]
  split <;> simp_all

/-- A text that spells an integer is read with the sign that it has, zero included. -/
theorem parse?_of_spellsInteger (spells : SpellsInteger text value) :
    ∃ negative, value = (if negative then -(value.natAbs : Int) else value.natAbs) ∧
      parse? text = ofScientific? negative value.natAbs 0 := by
  cases spells with
  | bare numeral =>
      obtain ⟨c, rest, rfl, digit⟩ := numeral.exists_first
      refine ⟨false, rfl, ?_⟩
      rw [parse?_of_digit_first digit]
      exact parseUnsigned?_of_isNumeral false numeral
  | plus numeral => exact ⟨false, rfl, parseUnsigned?_of_isNumeral false numeral⟩
  | minus numeral =>
      refine ⟨true, by simp, ?_⟩
      rw [Int.natAbs_neg, Int.natAbs_natCast]
      exact parseUnsigned?_of_isNumeral true numeral

/-- The double nearest to a spelled integer is read. -/
theorem exists_nearest_of_spellsInteger (spells : SpellsInteger text value)
    (small : value.natAbs < 2 ^ 65) :
    ∃ rounded, parse? text = some rounded ∧
      ∀ other : Double, (rounded.steps - value * stepsPerUnit).natAbs ≤
        (other.steps - value * stepsPerUnit).natAbs := by
  obtain ⟨negative, signed, reads⟩ := parse?_of_spellsInteger spells
  have fewDigits : value.natAbs < 10 ^ 20 := Nat.lt_trans small (by decide)
  obtain ⟨rounded, found, sign, nearest⟩ := ofFraction?_whole negative small
  rw [ofScientific?_whole negative fewDigits, found] at reads
  refine ⟨rounded, reads, fun other => ?_⟩
  have magnitude : (value * stepsPerUnit).natAbs = value.natAbs * stepsPerUnit := by
    rw [Int.natAbs_mul, Int.natAbs_natCast]
  have steps : value * stepsPerUnit =
      if rounded.negative then -((value.natAbs * stepsPerUnit : Nat) : Int)
      else (value.natAbs * stepsPerUnit : Nat) := by
    rw [sign, Int.natCast_mul, ← Int.neg_mul]
    split
    · next isNegative =>
        rw [if_pos isNegative] at signed
        rw [← signed]
    · next notNegative =>
        rw [if_neg notNegative] at signed
        rw [← signed]
  calc (rounded.steps - value * stepsPerUnit).natAbs
      = Nat.dist rounded.magnitude (value.natAbs * stepsPerUnit) := by
        rw [steps, natAbs_sub_of_sign]
    _ ≤ Nat.dist other.magnitude (value.natAbs * stepsPerUnit) := nearest other
    _ ≤ (other.steps - value * stepsPerUnit).natAbs := by
        rw [← magnitude]
        exact dist_le_natAbs_sub other _

end Double

end PluginHost
