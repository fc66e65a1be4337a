import PluginHost.Decimal.Integer

/-!
# Numerals

Digits read onto a value, and the numerals that spell the integers of a range without a sign.
-/

namespace PluginHost

/-- A numeral: one digit or more. -/
structure IsNumeral (text : List Char) : Prop where
  notEmpty : text ≠ []
  digits : ∀ c ∈ text, c.isDigit = true

variable {text digits rest : List Char} {c : Char} {value : Nat}

theorem IsNumeral.exists_first (numeral : IsNumeral text) :
    ∃ c rest, text = c :: rest ∧ c.isDigit = true := by
  obtain ⟨c, rest, rfl⟩ := List.exists_cons_of_ne_nil numeral.notEmpty
  exact ⟨c, rest, rfl, numeral.digits c List.mem_cons_self⟩

theorem digit_bounds (digit : c.isDigit = true) : 48 ≤ c.toNat ∧ c.toNat ≤ 57 :=
  Char.isDigit_iff_toNat.mp digit

theorem digitValue_lt_ten (digit : c.isDigit = true) : digitValue c < 10 := by
  have bounds := digit_bounds digit
  have zero : '0'.toNat = 48 := rfl
  rw [digitValue]
  omega

theorem digitChar_digitValue (digit : c.isDigit = true) : Nat.digitChar (digitValue c) = c := by
  have bounds := digit_bounds digit
  have zero : '0'.toNat = 48 := rfl
  apply Char.toNat_inj.mp
  rw [Nat.toNat_digitChar_of_lt_ten (digitValue_lt_ten digit), digitValue]
  omega

theorem isNumeral_toDigits (value : Nat) : IsNumeral (Nat.toDigits 10 value) where
  notEmpty := Nat.toDigits_ne_nil
  digits _ member := Nat.isDigit_of_mem_toDigits (by decide) (by decide) member

/-- One more digit is written behind the others, unless these are a zero. -/
theorem toDigits_onto (positive : 0 < value) (digit : c.isDigit = true) :
    Nat.toDigits 10 (value * 10 + digitValue c) = Nat.toDigits 10 value ++ [c] := by
  have small := digitValue_lt_ten digit
  rw [Nat.mul_comm, ← Nat.toDigits_append_toDigits (by decide) positive small,
    Nat.toDigits_of_lt_base small, digitChar_digitValue digit]

/-- Nothing but a zero is written with a zero in front. -/
theorem head?_toDigits (positive : 0 < value) : (Nat.toDigits 10 value).head? ≠ some '0' := by
  induction value using Nat.strongRecOn with
  | ind value ih =>
      by_cases small : value < 10
      · have oneDigit : ∀ digit < 10, 0 < digit → [Nat.digitChar digit].head? ≠ some '0' := by
          decide
        rw [Nat.toDigits_of_lt_base small]
        exact oneDigit value small positive
      · have front := ih (value / 10) (by omega) (by omega)
        have split : 10 * (value / 10) + value % 10 = value := Nat.div_add_mod value 10
        obtain ⟨c, digits, written, -⟩ := (isNumeral_toDigits (value / 10)).exists_first
        rw [← split, ← Nat.toDigits_append_toDigits (by decide) (by omega)
          (Nat.mod_lt value (by decide))]
        rw [written] at front ⊢
        exact front

theorem ofDigitChars_onto :
    Nat.ofDigitChars 10 (c :: rest) value =
      Nat.ofDigitChars 10 rest (value * 10 + digitValue c) := by
  rw [Nat.ofDigitChars_cons, Nat.mul_comm, digitValue]

theorem le_ofDigitChars (text : List Char) (value : Nat) :
    value ≤ Nat.ofDigitChars 10 text value := by
  induction text generalizing value with
  | nil => simp
  | cons c rest ih =>
      rw [ofDigitChars_onto]
      have further := ih (value * 10 + digitValue c)
      omega

namespace IntegerRange

variable {range : IntegerRange} {result : Int}

theorem digitsOnto_step (least : range.least ≤ 0) (digit : c.isDigit = true)
    (fits : ((value * 10 + digitValue c : Nat) : Int) ≤ range.greatest) :
    range.digitsOnto false (value : Int) (c :: rest) =
      range.digitsOnto false ((value * 10 + digitValue c : Nat) : Int) rest := by
  have extended : ((value * 10 + digitValue c : Nat) : Int) =
      (value : Int) * 10 + digitValue c := by
    push_cast
    rfl
  rw [extended] at fits ⊢
  have notSmall : ¬ ((value : Int) * 10 + digitValue c < range.least) := by omega
  simp [digitsOnto, digit, notSmall, Int.not_lt.mpr fits]

/-- Digits are read as long as their value is in the range. -/
theorem digitsOnto_append (least : range.least ≤ 0) (areDigits : ∀ c ∈ digits, c.isDigit = true)
    (fits : (Nat.ofDigitChars 10 digits value : Int) ≤ range.greatest) (rest : List Char) :
    range.digitsOnto false (value : Int) (digits ++ rest) =
      range.digitsOnto false (Nat.ofDigitChars 10 digits value : Nat) rest := by
  induction digits generalizing value with
  | nil => simp
  | cons c digits ih =>
      obtain ⟨digit, others⟩ := List.forall_mem_cons.mp areDigits
      rw [ofDigitChars_onto] at fits ⊢
      have grows : ((value * 10 + digitValue c : Nat) : Int) ≤ range.greatest := by
        have further := le_ofDigitChars digits (value * 10 + digitValue c)
        omega
      rw [List.cons_append, digitsOnto_step least digit grows, ih others fits]

theorem digitsOnto_eq_ok_iff (value : Nat) (least : range.least ≤ 0)
    (start : (value : Int) ≤ range.greatest) :
    range.digitsOnto false (value : Int) text = .ok result ↔
      (∀ c ∈ text, c.isDigit = true) ∧ result = (Nat.ofDigitChars 10 text value : Nat) ∧
        result ≤ range.greatest := by
  constructor
  · intro reads
    induction text generalizing value with
    | nil =>
        obtain rfl := Except.ok.inj reads
        exact ⟨nofun, by simp, start⟩
    | cons c rest ih =>
        cases digit : c.isDigit with
        | false => simp [digitsOnto, digit] at reads
        | true =>
            by_cases fits : ((value * 10 + digitValue c : Nat) : Int) ≤ range.greatest
            · rw [digitsOnto_step least digit fits] at reads
              obtain ⟨others, same, inRange⟩ := ih _ fits reads
              rw [← ofDigitChars_onto] at same
              exact ⟨List.forall_mem_cons.mpr ⟨digit, others⟩, same, inRange⟩
            · have tooLarge : range.greatest < (value : Int) * 10 + digitValue c := by
                push_cast at fits
                omega
              simp [digitsOnto, digit, tooLarge] at reads
  · rintro ⟨areDigits, rfl, fits⟩
    have reads := digitsOnto_append least areDigits fits []
    rwa [List.append_nil] at reads

theorem digitsOnto_invalidDigit (value : Nat) (least : range.least ≤ 0)
    (areDigits : ∀ c ∈ digits, c.isDigit = true)
    (fits : (Nat.ofDigitChars 10 digits value : Int) ≤ range.greatest) (other : c.isDigit = false) :
    range.digitsOnto false (value : Int) (digits ++ c :: rest) = .error .invalidDigit := by
  rw [digitsOnto_append least areDigits fits, digitsOnto]
  simp [other]

theorem parse_of_digit_first (digit : c.isDigit = true) :
    range.parse (c :: rest) = range.digitsOnto false 0 (c :: rest) := by
  rw [parse.eq_def]
  split <;> simp_all

/-- Where no integer is negative, a numeral may follow a plus sign and no other. -/
theorem parse_eq_ok_iff (least : range.least = 0) (start : 0 ≤ range.greatest) :
    range.parse text = .ok result ↔
      ∃ digits, IsNumeral digits ∧ (text = digits ∨ text = '+' :: digits) ∧
        result = (Nat.ofDigitChars 10 digits 0 : Nat) ∧ result ≤ range.greatest := by
  have reads (digits : List Char) : range.digitsOnto false 0 digits = .ok result ↔
      (∀ c ∈ digits, c.isDigit = true) ∧ result = (Nat.ofDigitChars 10 digits 0 : Nat) ∧
        result ≤ range.greatest :=
    digitsOnto_eq_ok_iff 0 (Int.le_of_eq least) start
  constructor
  · intro parses
    rw [parse.eq_def] at parses
    split at parses
    · cases parses
    · cases parses
    · cases parses
    · next digits notEmpty =>
        obtain ⟨areDigits, value⟩ := (reads digits).mp parses
        exact ⟨digits, ⟨fun none => notEmpty none, areDigits⟩, .inr rfl, value⟩
    · rw [if_neg (by omega)] at parses
      cases parses
    · next notEmpty _ _ _ _ =>
        obtain ⟨areDigits, value⟩ := (reads text).mp parses
        exact ⟨text, ⟨fun none => notEmpty none, areDigits⟩, .inl rfl, value⟩
  · rintro ⟨digits, numeral, spelled, value⟩
    obtain ⟨c, rest, rfl, digit⟩ := numeral.exists_first
    have digitsRead := (reads (c :: rest)).mpr ⟨numeral.digits, value⟩
    rcases spelled with rfl | rfl
    · rwa [parse_of_digit_first digit]
    · exact digitsRead

end IntegerRange

end PluginHost
