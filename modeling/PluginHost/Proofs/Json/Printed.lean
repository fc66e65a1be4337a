import PluginHost.Json.Printer
import PluginHost.Proofs.Decimal.Numeral
import PluginHost.Proofs.Json.Grammar
import PluginHost.Proofs.KeyedList

/-!
# What is printed is read back

The compact form of a value without doubles spells the value, whatever follows it, as long as this
does not go on with a number.  The fields of an object may be written in any order; they are read
in the order of their keys.
-/

namespace PluginHost

open Text

namespace JsonReader

variable {rest : List Symbol} {c : Char}

/-! ### Strings -/

theorem hexDigit?_digitChar :
    ∀ digit < 16, hexDigit? (some (Nat.digitChar digit)) = some digit := by
  decide

theorem escape_controlCharacter (control : c.toNat < 32) (rest : List Symbol) :
    escape (some 'u' :: some '0' :: some '0' :: some (Nat.digitChar (c.toNat / 16)) ::
      some (Nat.digitChar (c.toNat % 16)) :: rest) = .ok (c, rest) := by
  have code : (0 * 16 + 0) * 16 + c.toNat / 16 = c.toNat / 16 := by omega
  have units : hexEscape (some '0' :: some '0' :: some (Nat.digitChar (c.toNat / 16)) ::
      some (Nat.digitChar (c.toNat % 16)) :: rest) = .ok (c.toNat, rest) := by
    have zero : hexDigit? (some '0') = some 0 := rfl
    unfold hexEscape
    simp only [zero, hexDigit?_digitChar _ (show c.toNat / 16 < 16 by omega),
      hexDigit?_digitChar _ (Nat.mod_lt _ (show 0 < 16 by decide))]
    rw [show ((0 * 16 + 0) * 16 + c.toNat / 16) * 16 + c.toNat % 16 = c.toNat by omega]
  have unicode : escape (some 'u' :: some '0' :: some '0' :: some (Nat.digitChar (c.toNat / 16)) ::
      some (Nat.digitChar (c.toNat % 16)) :: rest) = unicodeEscape (some '0' :: some '0' ::
        some (Nat.digitChar (c.toNat / 16)) :: some (Nat.digitChar (c.toNat % 16)) :: rest) := rfl
  rw [unicode, unicodeEscape, units]
  simp only
  rw [if_neg (by simp; omega), if_pos (by simp; omega), Char.ofNat_toNat]

theorem stringOnto_of_escape {stream : List Symbol} (escaped : escape stream = .ok (c, rest))
    (fuel : Nat) (read : List Char) :
    stringOnto (fuel + 1) true read (some '\\' :: stream) =
      stringOnto fuel true (c :: read) rest := by
  rw [stringOnto, if_neg (by decide), if_pos (by decide), escaped]

/-- A written character is read in one step. -/
theorem stringOnto_escapedChar (c : Char) (fuel : Nat) (read : List Char) (rest : List Symbol) :
    stringOnto (fuel + 1) true read ((Json.escapedChar c).map some ++ rest) =
      stringOnto fuel true (c :: read) rest := by
  have meant {other letter : Char} (same : (c == other) = true)
      (escaped : escape (some letter :: rest) = .ok (other, rest)) :
      stringOnto (fuel + 1) true read (['\\', letter].map some ++ rest) =
        stringOnto fuel true (c :: read) rest := by
    rw [beq_iff_eq.mp same]
    exact stringOnto_of_escape escaped fuel read
  unfold Json.escapedChar
  split_ifs with quote backslash newline carriage tab backspace feed control
  · exact meant quote rfl
  · exact meant backslash rfl
  · exact meant newline rfl
  · exact meant carriage rfl
  · exact meant tab rfl
  · exact meant backspace rfl
  · exact meant feed rfl
  · exact stringOnto_of_escape (escape_controlCharacter control rest) fuel read
  · rw [List.map_singleton, List.singleton_append, stringOnto]
    simp [quote, backslash, control]

theorem stringOnto_escaped (text : List Char) {fuel : Nat} (read : List Char) (rest : List Symbol)
    (fits : text.length < fuel) :
    stringOnto fuel true read ((text.flatMap Json.escapedChar).map some ++ some '"' :: rest) =
      .ok (String.ofList (read.reverse ++ text), rest) := by
  induction text generalizing fuel read with
  | nil =>
      obtain ⟨fuel, rfl⟩ := Nat.exists_eq_add_one_of_ne_zero (Nat.ne_zero_of_lt fits)
      rw [List.append_nil]
      rfl
  | cons c text ih =>
      obtain ⟨fuel, rfl⟩ := Nat.exists_eq_add_one_of_ne_zero (Nat.ne_zero_of_lt fits)
      rw [List.flatMap_cons, List.map_append, List.append_assoc, stringOnto_escapedChar,
        ih _ (Nat.lt_of_succ_lt_succ fits)]
      simp

theorem length_le_escaped (text : List Char) :
    text.length ≤ (text.flatMap Json.escapedChar).length := by
  induction text with
  | nil => exact Nat.le_refl _
  | cons c text ih =>
      have some : 0 < (Json.escapedChar c).length := by
        unfold Json.escapedChar
        split_ifs <;> exact Nat.succ_pos _
      rw [List.flatMap_cons, List.length_append, List.length_cons]
      omega

/-- A written text is read back, after its opening quote. -/
theorem string_writeString (text : String) (rest : List Symbol) :
    string ((Json.writeString text).tail.map some ++ rest) = .ok (text, rest) := by
  have fits := length_le_escaped text.toList
  rw [Json.writeString, List.tail_cons, List.map_append, List.append_assoc, List.map_singleton,
    List.singleton_append, string, stringOnto_escaped]
  · simp
  · simp only [List.length_append, List.length_map, List.length_cons]
    omega

/-! ### Whole numbers -/

/-- A stream that does not go on with a number. -/
def EndsNumber (stream : List Symbol) : Prop :=
  ∀ c ∈ stream.head?.join, c.isDigit = false ∧ c ≠ '.' ∧ c ≠ 'e' ∧ c ≠ 'E'

theorem EndsNumber.nextDigit? (ends : EndsNumber rest) : nextDigit? rest = none := by
  unfold JsonReader.nextDigit?
  split
  · next c rest =>
      rw [(ends c rfl).1]
      rfl
  · rfl

theorem EndsNumber.startsExponent (ends : EndsNumber rest) : startsExponent rest = false := by
  unfold JsonReader.startsExponent
  split
  · next c rest =>
      obtain ⟨-, -, small, large⟩ := ends c rfl
      simp [small, large]
  · rfl

theorem EndsNumber.significand (ends : EndsNumber rest) (value count : Nat) :
    significand rest value count = (value, count, false, rest) := by
  unfold JsonReader.significand
  split
  · next c rest =>
      rw [(ends c rfl).1]
      rfl
  · rfl

theorem significand_digits {digits : List Char} (areDigits : ∀ c ∈ digits, c.isDigit = true)
    (ends : EndsNumber rest) {value : Nat} (count : Nat)
    (fits : Nat.ofDigitChars 10 digits value ≤ greatestSignificand) :
    significand (digits.map some ++ rest) value count =
      (Nat.ofDigitChars 10 digits value, count + digits.length, false, rest) := by
  induction digits generalizing value count with
  | nil => exact ends.significand value count
  | cons c digits ih =>
      obtain ⟨digit, others⟩ := List.forall_mem_cons.mp areDigits
      rw [ofDigitChars_onto] at fits ⊢
      have small := Nat.le_trans (le_ofDigitChars digits _) fits
      have further := ih others (count + 1) fits
      rw [List.map_cons, List.cons_append, significand, if_pos digit]
      simp only
      rw [if_neg (Nat.not_lt.mpr small), further, List.length_cons, Nat.add_assoc,
        Nat.add_comm 1]

theorem number_toDigits (ends : EndsNumber rest) (negative : Bool) {value : Nat}
    (fits : value ≤ greatestSignificand) :
    number negative ((Nat.toDigits 10 value).map some ++ rest) =
      afterWhole negative value rest := by
  by_cases positive : 0 < value
  · obtain ⟨c, digits, written, digit⟩ := (isNumeral_toDigits value).exists_first
    have notZero : c ≠ '0' := by
      rintro rfl
      exact head?_toDigits positive (by rw [written]; rfl)
    have whole : Nat.ofDigitChars 10 (Nat.toDigits 10 value) 0 = value :=
      Nat.ofDigitChars_ten_toDigits
    rw [← whole] at fits
    have read := significand_digits (isNumeral_toDigits value).digits ends 0 fits
    have next : JsonReader.nextDigit? (some c :: (digits.map some ++ rest)) =
        some (digitValue c, digits.map some ++ rest) := if_pos digit
    rw [whole, written, List.map_cons, List.cons_append] at read
    rw [written, List.map_cons, List.cons_append]
    unfold number
    split
    · next none => cases none
    · next zero =>
        cases zero
        exact (notZero rfl).elim
    · rw [next]
      simp only [read]
  · obtain rfl := Nat.eq_zero_of_not_pos positive
    have single : ¬ (JsonReader.nextDigit? rest).isSome = true := by
      rw [ends.nextDigit?]
      exact nofun
    exact if_neg single

theorem afterWhole_of_endsNumber (ends : EndsNumber rest) {negative : Bool} {value : Nat}
    {whole : Int} (same : (if negative then -(value : Int) else value) = whole)
    (proper : negative = true → value ≠ 0) (inRange : IsJsonInteger whole) :
    afterWhole negative value rest = .ok (.integer whole inRange, rest) := by
  have integer : JsonNumber.ofInt whole = .integer whole inRange := dif_pos inRange
  have notDouble : (negative && (value == 0 || !decide (IsJsonInteger whole))) = false := by
    cases negative with
    | false => rfl
    | true => simp [inRange, proper rfl]
  unfold afterWhole
  split
  · exact ((ends '.' rfl).2.1 rfl).elim
  · rw [ends.startsExponent]
    simp only [Bool.false_eq_true, if_false, same, notDouble, integer]

theorem skipSeparators_of_digit (digit : c.isDigit = true) (rest : List Symbol) :
    skipSeparators (some c :: rest) = some c :: rest := by
  refine skipSeparators_of_head fun symbol first => ?_
  obtain rfl := Option.some.inj first
  have apart := ne_of_isDigit digit
  simp [isSeparator, apart ' ' rfl, apart '\n' rfl, apart '\t' rfl, apart '\r' rfl]

/-- A whole number is read back from what is written of it. -/
theorem spells_integer {depth : Nat} {value : Int} (inRange : IsJsonInteger value)
    (ends : EndsNumber rest) :
    Spells depth (.value (.number (.integer value inRange)))
      ((JsonNumber.integer value inRange).write.map some ++ rest) rest := by
  have fits : value.natAbs ≤ greatestSignificand := by
    have bound : Int.pow 2 64 = 18446744073709551616 := rfl
    have greatest : greatestSignificand = 18446744073709551615 := rfl
    have below : Int.pow 2 63 = 9223372036854775808 := rfl
    obtain ⟨least, most⟩ := inRange
    omega
  refine .scalar ?_
  rw [JsonNumber.write, intDigits]
  split
  · next negative =>
      have read := number_toDigits ends true fits
      have same : (if true then -(value.natAbs : Int) else value.natAbs) = value := by
        rw [if_pos rfl]
        omega
      rw [afterWhole_of_endsNumber ends same (by omega) inRange] at read
      exact .negative read
  · next notNegative =>
      have read := number_toDigits ends false fits
      have same : (if false then -(value.natAbs : Int) else value.natAbs) = value := by
        rw [if_neg Bool.false_ne_true]
        omega
      rw [afterWhole_of_endsNumber ends same nofun inRange] at read
      obtain ⟨c, digits, written, digit⟩ := (isNumeral_toDigits value.natAbs).exists_first
      rw [written, List.map_cons, List.cons_append] at read ⊢
      rw [skipSeparators_of_digit digit]
      exact .unsigned digit read

end JsonReader

namespace Json

open JsonReader

variable {depth : Nat} {written read : Json}

/-- A value is read back as another one from what is written of it. -/
def IsReadBack (depth : Nat) (written read : Json) : Prop :=
  ∀ rest, EndsNumber rest → Spells depth (.value read) (written.write.map some ++ rest) rest

theorem isReadBack_null (depth : Nat) : IsReadBack depth .null .null :=
  fun _ _ => .scalar (.null rfl)

theorem isReadBack_bool (depth : Nat) (value : Bool) :
    IsReadBack depth (.bool value) (.bool value) := by
  intro rest _
  cases value with
  | false => exact .scalar (.false rfl)
  | true => exact .scalar (.true rfl)

theorem isReadBack_integer (depth : Nat) {value : Int} (inRange : IsJsonInteger value) :
    IsReadBack depth (.number (.integer value inRange)) (.number (.integer value inRange)) :=
  fun _ ends => spells_integer inRange ends

theorem isReadBack_string (depth : Nat) (text : String) :
    IsReadBack depth (.string text) (.string text) :=
  fun rest _ => .scalar (.string (string_writeString text rest))

theorem endsNumber_cons {c : Char} (mark : c.isDigit = false ∧ c ≠ '.' ∧ c ≠ 'e' ∧ c ≠ 'E')
    (rest : List Symbol) : EndsNumber (some c :: rest) := by
  intro other same
  obtain rfl := Option.some.inj same
  exact mark

/-- Items after the first one are read back. -/
theorem spells_writeItems {written read : List Json}
    (items : List.Forall₂ (IsReadBack depth) written read) (rest : List Symbol) :
    EndsNumber ((write.writeItems written).map some ++ rest) ∧
      Spells depth (.items false read) ((write.writeItems written).map some ++ rest) rest := by
  induction items with
  | nil => exact ⟨endsNumber_cons (by decide) _, .noItem rfl⟩
  | @cons first firstRead others othersRead here _ ih =>
      rw [write.writeItems, List.map_cons, List.cons_append, List.map_append, List.append_assoc]
      -- A comma or the bracket follows, and no number goes on with either.
      have item := here _ ih.1
      obtain ⟨c, more, opens, notClosed, -⟩ := item.exists_opening
      refine ⟨endsNumber_cons (by decide) _, .item (.later rfl opens notClosed) ?_ ih.2⟩
      rw [← opens]
      exact item.fromSeparators

theorem isReadBack_array {written read : List Json}
    (items : List.Forall₂ (IsReadBack depth) written read) (deep : 0 < depth) :
    IsReadBack (depth + 1) (.array written) (.array read) := by
  intro rest ends
  cases items with
  | nil => exact .array rfl deep (.noItem rfl)
  | @cons first firstRead others othersRead here items =>
      rw [write, List.map_cons, List.cons_append, List.map_append, List.append_assoc]
      obtain ⟨later, items⟩ := spells_writeItems items rest
      have item := here _ later
      obtain ⟨c, more, opens, notClosed, -⟩ := item.exists_opening
      refine .array rfl deep (.item (.first opens notClosed) ?_ items)
      rw [← opens]
      exact item.fromSeparators

/-- A field is read back under its key. -/
def IsFieldReadBack (depth : Nat) (written read : String × Json) : Prop :=
  written.1 = read.1 ∧ IsReadBack depth written.2 read.2

theorem key_writeString (name : String) (rest : List Symbol) :
    key ((writeString name).tail.map some ++ some ':' :: rest) = .ok (name, rest) :=
  key_eq_ok_iff.mpr ⟨_, string_writeString name _, rfl⟩

/-- Fields after the first one are read back. -/
theorem spells_writeFields {written read : List (String × Json)}
    (fields : List.Forall₂ (IsFieldReadBack depth) written read) (rest : List Symbol) :
    EndsNumber ((write.writeFields written).map some ++ rest) ∧
      Spells depth (.fields false read) ((write.writeFields written).map some ++ rest) rest := by
  induction fields with
  | nil => exact ⟨endsNumber_cons (by decide) _, .noField rfl⟩
  | @cons first firstRead others othersRead here _ ih =>
      obtain ⟨name, value⟩ := first
      obtain ⟨nameRead, valueRead⟩ := firstRead
      obtain ⟨rfl, here⟩ := here
      rw [write.writeFields, List.map_cons, List.cons_append, List.map_append, List.append_assoc,
        List.map_cons, List.cons_append, List.map_append, List.append_assoc]
      exact ⟨endsNumber_cons (by decide) _,
        .field (.later rfl rfl) (key_writeString name _) (here _ ih.1) ih.2⟩

theorem spells_write_object {written read : List (String × Json)}
    (fields : List.Forall₂ (IsFieldReadBack depth) written read) (rest : List Symbol) :
    ∃ inner, (Json.object written).write.map some ++ rest = some '\x7b' :: inner ∧
      Spells depth (.fields true read) inner rest := by
  cases fields with
  | nil => exact ⟨_, rfl, .noField rfl⟩
  | @cons first firstRead others othersRead here fields =>
      obtain ⟨name, value⟩ := first
      obtain ⟨nameRead, valueRead⟩ := firstRead
      obtain ⟨rfl, here⟩ := here
      obtain ⟨later, fields⟩ := spells_writeFields fields rest
      refine ⟨(writeString name ++ ':' :: (write value ++ write.writeFields others)).map some ++
        rest, rfl, ?_⟩
      rw [List.map_append, List.append_assoc, List.map_cons, List.cons_append, List.map_append,
        List.append_assoc]
      exact .field (.first rfl) (key_writeString name _) (here _ later) fields

theorem isReadBack_object {written read : List (String × Json)}
    (fields : List.Forall₂ (IsFieldReadBack depth) written read) (deep : 0 < depth) :
    IsReadBack (depth + 1) (.object written) (.ofFields read) := by
  intro rest _
  obtain ⟨inner, opens, inside⟩ := spells_write_object fields rest
  rw [opens]
  exact .object rfl deep inside

/-! ### Texts -/

theorem IsReadBack.parse_compact (readBack : IsReadBack depthLimit written read) :
    parse written.compact = .ok read := by
  have spells := readBack [] nofun
  rw [List.append_nil] at spells
  rw [parse_eq_ok_iff, compact, symbolsOf, String.toList_ofList]
  exact ⟨[], spells, rfl⟩

/-- Blanks behind what is printed of an object change nothing. -/
theorem spellsFields_compact_append {written read : List (String × Json)}
    (fields : List.Forall₂ (IsFieldReadBack (depthLimit - 1)) written read) (blanks : String)
    (blank : skipSeparators (symbolsOf blanks) = []) :
    SpellsFields ((Json.object written).compact ++ blanks) read := by
  obtain ⟨inner, opens, inside⟩ := spells_write_object fields (symbolsOf blanks)
  have spelled : symbolsOf ((Json.object written).compact ++ blanks) = some '\x7b' :: inner := by
    rw [← opens, compact, symbolsOf, symbolsOf, String.toList_append, String.toList_ofList,
      List.map_append]
  refine ⟨inner, symbolsOf blanks, ?_, inside, blank⟩
  rw [spelled]
  rfl

theorem spellsFields_compact {written read : List (String × Json)}
    (fields : List.Forall₂ (IsFieldReadBack (depthLimit - 1)) written read) :
    SpellsFields (Json.object written).compact read := by
  simpa using spellsFields_compact_append fields "" rfl

/-- Values without doubles, with the fields of every object in order, whose arrays and objects nest
to a depth at most. -/
inductive PlainTo : Nat → Json → Prop where
  | null {depth : Nat} : PlainTo depth .null
  | bool {depth : Nat} (value : Bool) : PlainTo depth (.bool value)
  | integer {depth : Nat} (value : Int) (inRange : IsJsonInteger value) :
      PlainTo depth (.number (.integer value inRange))
  | string {depth : Nat} (text : String) : PlainTo depth (.string text)
  | array {depth : Nat} {items : List Json} (inside : ∀ item ∈ items, PlainTo depth item) :
      PlainTo (depth + 1) (.array items)
  | object {depth : Nat} {fields : JsonFields} (sorted : KeyedList.Sorted fields)
      (inside : ∀ entry ∈ fields, PlainTo depth entry.2) : PlainTo (depth + 1) (.object fields)

theorem PlainTo.isReadBack {nested : Nat} {value : Json} (plain : PlainTo nested value)
    (deep : nested < depth) : IsReadBack depth value value := by
  induction plain generalizing depth with
  | null => exact isReadBack_null depth
  | bool value => exact isReadBack_bool depth value
  | integer value inRange => exact isReadBack_integer depth inRange
  | string text => exact isReadBack_string depth text
  | array inside ih =>
      obtain ⟨depth, rfl⟩ := Nat.exists_eq_add_one_of_ne_zero (Nat.ne_zero_of_lt deep)
      refine isReadBack_array (List.forall₂_same.mpr fun item member => ?_) (by omega)
      exact ih item member (by omega)
  -- Fields in order are put where they are.
  | @object _ fields sorted inside ih =>
      obtain ⟨depth, rfl⟩ := Nat.exists_eq_add_one_of_ne_zero (Nat.ne_zero_of_lt deep)
      have same : Json.object fields = .ofFields fields := by rw [ofFields, sorted.ofList_eq]
      have readBack : IsReadBack (depth + 1) (.object fields) (.ofFields fields) :=
        isReadBack_object (List.forall₂_same.mpr fun entry member =>
          ⟨rfl, ih entry member (by omega)⟩) (by omega)
      rwa [← same] at readBack

/-- What is printed of a value without doubles is read as the value, if arrays and objects do not
nest too deep in it. -/
theorem PlainTo.parse_compact {nested : Nat} {value : Json} (plain : PlainTo nested value)
    (deep : nested < depthLimit) : parse value.compact = .ok value :=
  (plain.isReadBack deep).parse_compact

end Json

end PluginHost
