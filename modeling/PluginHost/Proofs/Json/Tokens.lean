import PluginHost.Json.Record
import PluginHost.Proofs.Steps

/-!
# Reading a token and passing over it

Numbers, strings and keys can be read, or passed over without a look at what they stand for.
Whatever is read is passed over as well, up to the same place, and takes at least one symbol.
-/

namespace PluginHost.JsonReader

open Text

variable {stream rest : List Symbol} {c : Char}

/-! ### Separators and words -/

theorem skipSeparators_suffix (stream : List Symbol) : skipSeparators stream <:+ stream := by
  induction stream with
  | nil => exact List.suffix_rfl
  | cons symbol stream ih =>
      rw [skipSeparators]
      split
      · exact ih.trans (List.suffix_cons symbol stream)
      · exact List.suffix_rfl

theorem length_skipSeparators_le (stream : List Symbol) :
    (skipSeparators stream).length ≤ stream.length :=
  (skipSeparators_suffix stream).length_le

theorem skipSeparators_of_head (stays : ∀ symbol ∈ stream.head?, isSeparator symbol = false) :
    skipSeparators stream = stream := by
  cases stream with
  | nil => rfl
  | cons symbol stream =>
      have notSeparator := stays symbol rfl
      simp [skipSeparators, notSeparator]

theorem isSeparator_eq_false_of_mem_head? {symbol : Symbol}
    (first : symbol ∈ (skipSeparators stream).head?) : isSeparator symbol = false := by
  induction stream with
  | nil => cases first
  | cons other stream ih =>
      rw [skipSeparators] at first
      split at first
      · exact ih first
      · next notSeparator =>
          cases first
          exact Bool.eq_false_iff.mpr notSeparator

theorem skipSeparators_skipSeparators (stream : List Symbol) :
    skipSeparators (skipSeparators stream) = skipSeparators stream :=
  skipSeparators_of_head fun _ => isSeparator_eq_false_of_mem_head?

/-- What stands after blanks takes the rest of the stream, or less. -/
theorem length_of_skipSeparators_eq {symbol : Symbol}
    (opens : skipSeparators stream = symbol :: rest) : rest.length < stream.length := by
  have shorter := length_skipSeparators_le stream
  rw [opens, List.length_cons] at shorter
  exact shorter

theorem length_le_of_word {letters : List Char} (reads : word letters stream = .ok rest) :
    rest.length ≤ stream.length := by
  induction letters generalizing stream with
  | nil =>
      cases reads
      exact Nat.le_refl _
  | cons letter letters ih =>
      cases stream with
      | nil => cases reads
      | cons symbol stream =>
          rw [word] at reads
          split at reads
          · exact Nat.le_succ_of_le (ih reads)
          · cases reads

/-! ### Digits -/

theorem skipDigits_of_digit (digit : c.isDigit = true) (count : Nat) :
    skipDigits (some c :: rest) count = skipDigits rest (count + 1) := by
  rw [skipDigits, if_pos digit]

/-- Digits are counted on from any number, and the rest does not depend on it. -/
theorem skipDigits_count (stream : List Symbol) (count : Nat) :
    skipDigits stream count = (count + (skipDigits stream 0).1, (skipDigits stream 0).2) := by
  induction stream generalizing count with
  | nil => rfl
  | cons symbol stream ih =>
      cases symbol with
      | none => rfl
      | some c =>
          cases digit : c.isDigit with
          | false => simp [skipDigits, digit]
          | true =>
              rw [skipDigits_of_digit digit, skipDigits_of_digit digit, ih (count + 1), ih (0 + 1)]
              simp only [Prod.mk.injEq, and_true]
              omega

theorem skipDigits_cons_rest (digit : c.isDigit = true) (stream : List Symbol) :
    (skipDigits (some c :: stream) 0).2 = (skipDigits stream 0).2 := by
  rw [skipDigits_of_digit digit, skipDigits_count]

theorem skipDigits_cons_count (digit : c.isDigit = true) (stream : List Symbol) :
    (skipDigits (some c :: stream) 0).1 = (skipDigits stream 0).1 + 1 := by
  rw [skipDigits_of_digit digit, skipDigits_count]
  exact Nat.add_comm _ _

theorem length_skipDigits_le (stream : List Symbol) :
    (skipDigits stream 0).2.length ≤ stream.length := by
  induction stream with
  | nil => exact Nat.le_refl _
  | cons symbol stream ih =>
      cases symbol with
      | none => exact Nat.le_refl _
      | some c =>
          cases digit : c.isDigit with
          | false => simp [skipDigits, digit]
          | true =>
              rw [skipDigits_cons_rest digit]
              exact Nat.le_succ_of_le ih

theorem nextDigit?_eq_some {digit : Nat} (found : nextDigit? stream = some (digit, rest)) :
    ∃ c, stream = some c :: rest ∧ c.isDigit = true := by
  unfold nextDigit? at found
  split at found
  · split at found
    · next isDigit =>
        cases found
        exact ⟨_, rfl, isDigit⟩
    · cases found
  · cases found

theorem isSome_nextDigit?_of_digit (digit : c.isDigit = true) (stream : List Symbol) :
    (nextDigit? (some c :: stream)).isSome = true := by
  rw [nextDigit?, if_pos digit]
  rfl

theorem ne_of_isDigit (digit : c.isDigit = true) (other : Char)
    (noDigit : other.isDigit = false) : c ≠ other := by
  rintro rfl
  rw [digit] at noDigit
  cases noDigit

/-- Digits that are no longer read one by one are passed over. -/
theorem significand_rest {value count result total : Nat} {stopped : Bool}
    (reads : significand stream value count = (result, total, stopped, rest)) :
    (skipDigits rest 0).2 = (skipDigits stream 0).2 ∧
      (stopped = true → 0 < (skipDigits stream 0).1) ∧
      (stopped = false → rest = (skipDigits stream 0).2 ∧
        total = count + (skipDigits stream 0).1) := by
  induction stream generalizing value count with
  | nil =>
      cases reads
      simp [skipDigits]
  | cons symbol stream ih =>
      cases symbol with
      | none =>
          cases reads
          simp [skipDigits]
      | some c =>
          rw [significand] at reads
          cases digit : c.isDigit with
          | false =>
              rw [digit] at reads
              cases reads
              simp [skipDigits, digit]
          | true =>
              rw [digit, if_pos rfl] at reads
              rw [skipDigits_cons_rest digit, skipDigits_cons_count digit]
              simp only at reads
              split at reads
              · cases reads
                exact ⟨skipDigits_cons_rest digit _, fun _ => Nat.succ_pos _, nofun⟩
              · obtain ⟨same, -, whole⟩ := ih reads
                refine ⟨same, fun _ => Nat.succ_pos _, fun notStopped => ?_⟩
                obtain ⟨rest_eq, total_eq⟩ := whole notStopped
                exact ⟨rest_eq, by omega⟩

theorem exponentDigits_rest {value : Nat} {found : Option Nat}
    (reads : exponentDigits stream value = (found, rest)) :
    (skipDigits rest 0).2 = (skipDigits stream 0).2 ∧
      (found ≠ none → rest = (skipDigits stream 0).2) := by
  induction stream generalizing value with
  | nil =>
      cases reads
      simp [skipDigits]
  | cons symbol stream ih =>
      cases symbol with
      | none =>
          cases reads
          simp [skipDigits]
      | some c =>
          rw [exponentDigits] at reads
          cases digit : c.isDigit with
          | false =>
              rw [digit] at reads
              cases reads
              simp [skipDigits, digit]
          | true =>
              rw [digit, if_pos rfl] at reads
              rw [skipDigits_cons_rest digit]
              simp only at reads
              split at reads
              · cases reads
                exact ⟨rfl, fun some => (some rfl).elim⟩
              · exact ih reads

/-! ### Numbers -/

variable {negative : Bool} {found : JsonNumber}

theorem ofParts_eq (negative : Bool) (value : Nat) (exponent : Int) (rest : List Symbol) :
    ofParts negative value exponent rest =
      (Double.ofQuickScientific? negative value exponent).elim
        (faultHere .numberOutOfRange rest) fun found => .ok (.double found, rest) := by
  -- Unfolded before it is applied, so that nobody starts to compute the double.
  have unfolded : ofParts = ofParts := rfl
  conv at unfolded => rhs; delta ofParts
  rw [unfolded]
  dsimp only
  generalize Double.ofQuickScientific? negative value exponent = found
  cases found <;> rfl

theorem rest_of_ofParts {value : Nat} {exponent : Int} {after : List Symbol}
    (reads : ofParts negative value exponent after = .ok (found, rest)) : after = rest := by
  rw [ofParts_eq] at reads
  generalize Double.ofQuickScientific? negative value exponent = double at reads
  cases double with
  | none => cases reads
  | some double =>
      cases reads
      rfl

theorem skipExponent_of_exponentPart {value : Nat} {start : Int}
    (reads : exponentPart negative value start stream = .ok (found, rest)) :
    skipExponent stream = .ok rest := by
  rw [exponentPart] at reads
  rw [skipExponent]
  split at reads
  · cases reads
  · next sign more _ signed =>
      rw [signed]
      simp only at reads ⊢
      split at reads
      · cases reads
      · next digit after next =>
          rw [next]
          simp only
          split at reads
          · next exponent behind digits =>
              obtain rfl := rest_of_ofParts reads
              rw [(exponentDigits_rest digits).2 (Option.some_ne_none _)]
          · next behind digits =>
              split at reads
              · cases reads
              · cases reads
                rw [(exponentDigits_rest digits).1]

/-- What may follow the digits of a number. -/
def skipAfterDigits : List Symbol → Except JsonFault (List Symbol)
  | some '.' :: rest => skipFraction rest
  | rest => if startsExponent rest then skipExponent rest else .ok rest

theorem skipAfterDigits_of_noPoint (noPoint : ∀ rest, stream ≠ some '.' :: rest) :
    skipAfterDigits stream =
      if startsExponent stream then skipExponent stream else .ok stream := by
  unfold skipAfterDigits
  split
  · next point => exact (noPoint _ rfl).elim
  · rfl

theorem skipAfterDigits_of_afterFraction {value : Nat} {exponent : Int}
    (reads : afterFraction negative value exponent stream = .ok (found, rest)) :
    (if startsExponent stream then skipExponent stream else .ok stream) = .ok rest := by
  rw [afterFraction] at reads
  split at reads
  · next exponent =>
      rw [if_pos exponent]
      exact skipExponent_of_exponentPart reads
  · next noExponent =>
      rw [if_neg noExponent, rest_of_ofParts reads]

theorem skipFraction_of_fractionPart {value : Nat} {start : Int}
    (reads : fractionPart negative value start stream = .ok (found, rest)) :
    skipFraction stream = .ok rest := by
  have some_digits (digits : 0 < (skipDigits stream 0).1) :
      skipFraction stream =
        if startsExponent (skipDigits stream 0).2 then skipExponent (skipDigits stream 0).2
        else .ok (skipDigits stream 0).2 := by
    rw [skipFraction]
    split
    · next none => simp [none] at digits
    · next some => rw [some]
  rw [fractionPart] at reads
  split at reads
  · next value count more digits =>
      obtain ⟨same, positive, -⟩ := significand_rest digits
      rw [some_digits (positive rfl), ← same]
      exact skipAfterDigits_of_afterFraction reads
  · cases reads
  · next value count more notZero digits =>
      obtain ⟨-, -, whole⟩ := significand_rest digits
      obtain ⟨rfl, total⟩ := whole rfl
      have positive : 0 < (skipDigits stream 0).1 := by
        refine Nat.pos_of_ne_zero fun zero => notZero ?_
        rw [total, zero]
      rw [some_digits positive]
      exact skipAfterDigits_of_afterFraction reads

theorem skipAfterDigits_of_afterWhole {value : Nat}
    (reads : afterWhole negative value stream = .ok (found, rest)) :
    skipAfterDigits stream = .ok rest := by
  unfold afterWhole at reads
  split at reads
  · exact skipFraction_of_fractionPart reads
  · next noPoint =>
      rw [skipAfterDigits_of_noPoint noPoint]
      split at reads
      · next exponent =>
          rw [if_pos exponent]
          exact skipExponent_of_exponentPart reads
      · next noExponent =>
          rw [if_neg noExponent]
          simp only at reads
          generalize (if negative then -(value : Int) else value) = whole at reads
          split at reads
          · rw [rest_of_ofParts reads]
          · cases reads
            rfl

theorem skipAfterDigits_of_afterLongWhole {value : Nat}
    (reads : afterLongWhole negative value stream = .ok (found, rest)) :
    skipAfterDigits (skipDigits stream 0).2 = .ok rest := by
  unfold afterLongWhole at reads
  split at reads
  · next digits =>
      rw [digits]
      exact skipFraction_of_fractionPart reads
  · next count more noPoint digits =>
      rw [digits, skipAfterDigits_of_noPoint noPoint]
      exact skipAfterDigits_of_afterFraction reads

theorem skipNumber_zero (single : ¬ (nextDigit? stream).isSome = true) :
    skipNumber (some '0' :: stream) = skipAfterDigits stream := by
  change (if (nextDigit? stream).isSome then _ else skipAfterDigits stream) = _
  rw [if_neg single]

theorem skipNumber_of_digit (digit : c.isDigit = true) (notZero : c ≠ '0') :
    skipNumber (some c :: stream) = skipAfterDigits (skipDigits stream 0).2 := by
  have next : nextDigit? (some c :: stream) = some (digitValue c, stream) := if_pos digit
  unfold skipNumber
  simp only
  split
  · next zero =>
      cases zero
      exact (notZero rfl).elim
  · rw [next]
    rfl

theorem skipNumber_of_number (reads : number negative stream = .ok (found, rest)) :
    skipNumber stream = .ok rest := by
  unfold number at reads
  split at reads
  · cases reads
  · split at reads
    · cases reads
    · next single =>
        rw [skipNumber_zero single]
        exact skipAfterDigits_of_afterWhole reads
  · next notEmpty notZero =>
      split at reads
      · cases reads
      · next digit next =>
          obtain ⟨c, rfl, isDigit⟩ := nextDigit?_eq_some next
          have notZero : c ≠ '0' := fun same => notZero _ (by rw [same])
          rw [skipNumber_of_digit isDigit notZero, ← skipDigits_cons_rest isDigit]
          split at reads
          · next value count behind digits =>
              obtain ⟨-, -, whole⟩ := significand_rest digits
              rw [← (whole rfl).1]
              exact skipAfterDigits_of_afterWhole reads
          · next value count behind digits =>
              rw [← (significand_rest digits).1]
              exact skipAfterDigits_of_afterLongWhole reads

theorem length_exponentSign_le (stream : List Symbol) :
    (exponentSign stream).2.length ≤ stream.length := by
  unfold exponentSign
  split
  · exact Nat.le_succ _
  · exact Nat.le_succ _
  · exact Nat.le_refl _

theorem length_le_of_skipExponent (passes : skipExponent stream = .ok rest) :
    rest.length ≤ stream.length := by
  have signed := length_exponentSign_le (stream.drop 1)
  rw [List.length_drop] at signed
  unfold skipExponent at passes
  split at passes
  next sign more same =>
    rw [same] at signed
    split at passes
    · next digit after next =>
        cases passes
        obtain ⟨c, rfl, -⟩ := nextDigit?_eq_some next
        have digits := length_skipDigits_le after
        rw [List.length_cons] at signed
        omega
    · cases passes

theorem length_le_of_maybeExponent
    (passes : (if startsExponent stream then skipExponent stream else .ok stream) = .ok rest) :
    rest.length ≤ stream.length := by
  split at passes
  · exact length_le_of_skipExponent passes
  · cases passes
    exact Nat.le_refl _

theorem length_le_of_skipAfterDigits (passes : skipAfterDigits stream = .ok rest) :
    rest.length ≤ stream.length := by
  unfold skipAfterDigits at passes
  split at passes
  · next more =>
      have digits := length_skipDigits_le more
      unfold skipFraction at passes
      split at passes
      · cases passes
      · next count after same =>
          rw [same] at digits
          simp only at digits
          have behind := length_le_of_maybeExponent passes
          rw [List.length_cons]
          omega
  · exact length_le_of_maybeExponent passes

theorem length_lt_of_number (reads : number negative stream = .ok (found, rest)) :
    rest.length < stream.length := by
  have passes := skipNumber_of_number reads
  unfold number at reads
  split at reads
  · cases reads
  · next more =>
      split at reads
      · cases reads
      · next single =>
          rw [skipNumber_zero single] at passes
          exact Nat.lt_succ_of_le (length_le_of_skipAfterDigits passes)
  · next notEmpty notZero =>
      split at reads
      · cases reads
      · next digit next =>
          obtain ⟨c, rfl, isDigit⟩ := nextDigit?_eq_some next
          have notZero : c ≠ '0' := fun same => notZero _ (by rw [same])
          rw [skipNumber_of_digit isDigit notZero] at passes
          exact Nat.lt_succ_of_le
            (Nat.le_trans (length_le_of_skipAfterDigits passes) (length_skipDigits_le _))

/-! ### Strings -/

theorem hexEscape_eq_ok {unit : Nat} (reads : hexEscape stream = .ok (unit, rest)) :
    ∃ first second third fourth, stream = first :: second :: third :: fourth :: rest := by
  have malformed {size : Nat} : (if size < 4 then faultHere .endInString []
      else .error ⟨.invalidEscape, stream, 4⟩ : Step Nat) ≠ .ok (unit, rest) := by
    split <;> exact nofun
  unfold hexEscape at reads
  simp only at reads
  split at reads
  · split at reads
    · cases reads
      exact ⟨_, _, _, _, rfl⟩
    · exact (malformed reads).elim
  · exact (malformed reads).elim

/-- A character by its escape is passed over in one step, or in two if it takes two units. -/
theorem skipEscape_of_escape (reads : escape stream = .ok (c, rest)) :
    skipEscape stream = .ok rest ∨
      ∃ more, skipEscape stream = .ok (some '\\' :: more) ∧ skipEscape more = .ok rest := by
  unfold escape at reads
  split at reads
  · cases reads
  · next units =>
      unfold unicodeEscape at reads
      have passes : skipEscape (some 'u' :: units) = (hexEscape units).map Prod.snd := rfl
      rw [passes]
      split at reads
      · cases reads
      · next unit after read =>
          rw [read]
          split at reads
          · cases reads
          · split at reads
            · cases reads
              exact .inl rfl
            · unfold trailingSurrogate at reads
              split at reads
              · cases reads
              · cases reads
              · next second =>
                  split at reads
                  · cases reads
                  · next trailing behind second =>
                      split at reads
                      · cases reads
                      · have same := congrArg Prod.snd (Except.ok.inj reads)
                        refine .inr ⟨_, rfl, ?_⟩
                        rw [skipEscape, second]
                        exact congrArg Except.ok same
              · cases reads
              · cases reads
  · next letter more notUnicode =>
      split at reads
      · next meant simple =>
          cases reads
          left
          unfold skipEscape
          split
          · next same =>
              cases same
              exact (notUnicode rfl).elim
          · unfold escape
            simp only [simple]
            rfl
      · cases reads
  · cases reads

theorem length_lt_of_skipEscape (passes : skipEscape stream = .ok rest) :
    rest.length < stream.length := by
  unfold skipEscape at passes
  split at passes
  · obtain ⟨⟨unit, after⟩, reads, rfl⟩ := exists_of_map_eq_ok passes
    obtain ⟨_, _, _, _, rfl⟩ := hexEscape_eq_ok reads
    simp only [List.length_cons]
    omega
  · next notUnicode =>
      obtain ⟨⟨meant, after⟩, reads, rfl⟩ := exists_of_map_eq_ok passes
      unfold escape at reads
      split at reads
      · cases reads
      · exact (notUnicode _ rfl).elim
      · split at reads
        · cases reads
          exact Nat.lt_succ_self _
        · cases reads
      · cases reads

theorem skipStringFrom_of_skipEscape (passes : skipEscape stream = .ok rest) (fuel : Nat) :
    skipStringFrom (fuel + 1) (some '\\' :: stream) = skipStringFrom fuel rest := by
  rw [skipStringFrom, if_neg (by decide), if_pos (by decide), passes]

/-- A string that is read is passed over, with any fuel that suffices for its symbols. -/
theorem skipStringFrom_of_stringOnto {fuel enough : Nat} {clean : Bool} {read : List Char}
    {text : String} (reads : stringOnto fuel clean read stream = .ok (text, rest))
    (fits : stream.length < enough) : skipStringFrom enough stream = .ok rest := by
  induction fuel generalizing clean read stream enough with
  | zero => cases reads
  | succ fuel ih =>
      obtain ⟨extra, rfl⟩ := Nat.exists_eq_add_of_lt fits
      unfold stringOnto at reads
      split at reads
      · cases reads
      · next more =>
          change skipStringFrom _ more = .ok rest
          refine ih reads ?_
          simp only [List.length_cons]
          omega
      · next c more =>
          have shorter : more.length < (some c :: more).length + extra := by
            simp only [List.length_cons]
            omega
          unfold skipStringFrom
          simp only at reads ⊢
          split at reads
          · next quote =>
              rw [if_pos quote]
              split at reads
              · cases reads
                rfl
              · cases reads
          · next notQuote =>
              rw [if_neg notQuote]
              split at reads
              · next backslash =>
                  rw [if_pos backslash]
                  split at reads
                  · next meant after escaped =>
                      rcases skipEscape_of_escape escaped with passes | ⟨behind, first, second⟩
                      · have less := length_lt_of_skipEscape passes
                        rw [passes]
                        exact ih reads (Nat.lt_trans less shorter)
                      -- A character of two units is two escapes to the one who passes over it.
                      · have less := length_lt_of_skipEscape first
                        have lesser := length_lt_of_skipEscape second
                        rw [List.length_cons] at less
                        obtain ⟨fuel, same⟩ := Nat.exists_eq_add_of_lt
                          (show after.length + 1 < (some c :: more).length + extra by omega)
                        rw [first]
                        simp only [same]
                        rw [skipStringFrom_of_skipEscape second]
                        exact ih reads (by omega)
                  · cases reads
              · next notBackslash =>
                  rw [if_neg notBackslash]
                  split at reads
                  · cases reads
                  · next printable =>
                      rw [if_neg printable]
                      exact ih reads shorter

theorem skipString_of_string {text : String} (reads : string stream = .ok (text, rest)) :
    skipString stream = .ok rest :=
  skipStringFrom_of_stringOnto reads (Nat.lt_succ_self _)

theorem length_lt_of_skipStringFrom {fuel : Nat}
    (passes : skipStringFrom fuel stream = .ok rest) : rest.length < stream.length := by
  induction fuel generalizing stream with
  | zero => cases passes
  | succ fuel ih =>
      unfold skipStringFrom at passes
      split at passes
      · cases passes
      · exact Nat.lt_succ_of_lt (ih passes)
      · split at passes
        · cases passes
          exact Nat.lt_succ_self _
        · split at passes
          · split at passes
            · next escaped =>
                exact Nat.lt_succ_of_lt
                  (Nat.lt_trans (ih passes) (length_lt_of_skipEscape escaped))
            · cases passes
          · split at passes
            · cases passes
            · exact Nat.lt_succ_of_lt (ih passes)

theorem length_lt_of_string {text : String} (reads : string stream = .ok (text, rest)) :
    rest.length < stream.length :=
  length_lt_of_skipStringFrom (skipString_of_string reads)

/-! ### Keys -/

theorem key_eq_ok_iff {name : String} :
    key stream = .ok (name, rest) ↔ ∃ after, string stream = .ok (name, after) ∧
      skipSeparators after = some ':' :: rest := by
  constructor
  · intro reads
    unfold key at reads
    split at reads
    · cases reads
    · next after read =>
        split at reads
        · next colon =>
            cases reads
            exact ⟨after, read, colon⟩
        · cases reads
        · cases reads
  · rintro ⟨after, read, colon⟩
    unfold key
    rw [read]
    simp only [colon]

theorem skipKey_of_key {name : String} (reads : key stream = .ok (name, rest)) :
    skipKey (some '"' :: stream) = .ok rest := by
  obtain ⟨after, read, colon⟩ := key_eq_ok_iff.mp reads
  have quote : skipSeparators (some '"' :: stream) = some '"' :: stream := rfl
  unfold skipKey
  rw [quote]
  simp only [skipString_of_string read, colon]

theorem length_lt_of_key {name : String} (reads : key stream = .ok (name, rest)) :
    rest.length < stream.length := by
  obtain ⟨after, read, colon⟩ := key_eq_ok_iff.mp reads
  exact Nat.lt_trans (length_of_skipSeparators_eq colon) (length_lt_of_string read)

end PluginHost.JsonReader
