import PluginHost.Proofs.Toml.Ordered
import PluginHost.Proofs.Toml.Strings

/-!
# What the reader of TOML leaves

Every step of the reader takes a part at the beginning of its text and leaves the rest of it, so
that what it has still to read is at every time the end of the document.  Each step does so because
those that it is made of do; this is stated for each step in turn and tagged for the next.
-/

namespace PluginHost

namespace TomlReader

variable {α : Type} {text rest : List Char}

/-! ### Steps made of others -/

theorem optionally_cases {step : Step α} {read : Option α × List Char}
    (reads : optionally text step = .ok read) :
    (∃ value rest, step = .ok (value, rest) ∧ read = (some value, rest)) ∨ read = (none, text) := by
  unfold optionally at reads
  grind

attribute [local grind →] List.IsSuffix.trans exists_of_map_eq_ok eq_ok_of_committed
  eq_ok_of_orElse optionally_cases

attribute [local grind] soft final

local grind_pattern List.suffix_cons => a :: l

local grind_pattern List.drop_suffix => l.drop i

local grind_pattern List.dropWhile_suffix => l.dropWhile p

/-! ### Characters and lines -/

@[local grind →]
theorem suffix_of_expect {c : Char} (reads : expect c text = .ok rest) : rest <:+ text := by
  unfold expect at reads
  grind

@[local grind →]
theorem suffix_of_expectWord {word : List Char}
    (reads : expectWord word text = .ok rest) : rest <:+ text := by
  unfold expectWord at reads
  grind

@[local grind →]
theorem suffix_of_lineBreak? (reads : lineBreak? text = some rest) : rest <:+ text := by
  unfold lineBreak? at reads
  grind

theorem suffix_skipBlanks (text : List Char) : skipBlanks text <:+ text := by
  unfold skipBlanks
  grind

local grind_pattern suffix_skipBlanks => skipBlanks text

theorem suffix_skipComment (text : List Char) : skipComment text <:+ text := by
  unfold skipComment
  grind

local grind_pattern suffix_skipComment => skipComment text

@[local grind →]
theorem suffix_of_lineEnd (reads : lineEnd text = .ok rest) : rest <:+ text := by
  unfold lineEnd at reads
  grind

@[local grind →]
theorem suffix_of_lineTrailing (reads : lineTrailing text = .ok rest) : rest <:+ text := by
  unfold lineTrailing at reads
  grind

theorem suffix_skipFiller (fuel : Nat) (text : List Char) : skipFiller fuel text <:+ text := by
  fun_induction skipFiller fuel text <;> grind

local grind_pattern suffix_skipFiller => skipFiller fuel text

theorem suffix_filler (text : List Char) : filler text <:+ text := by
  unfold filler
  grind

local grind_pattern suffix_filler => filler text

/-! ### Numbers -/

@[local grind →]
theorem suffix_of_moreDigits {isDigit : Char → Bool} (reads : moreDigits isDigit text = .ok rest) :
    rest <:+ text := by
  fun_induction moreDigits isDigit text <;> grind

@[local grind →]
theorem suffix_of_digitRun {isDigit : Char → Bool}
    (reads : digitRun isDigit text = .ok rest) : rest <:+ text := by
  unfold digitRun at reads
  grind

theorem suffix_skipSign (text : List Char) : skipSign text <:+ text := by
  unfold skipSign
  grind

local grind_pattern suffix_skipSign => skipSign text

@[local grind →]
theorem suffix_of_decimalRun (reads : decimalRun text = .ok rest) : rest <:+ text := by
  unfold decimalRun at reads
  grind

@[local grind →]
theorem suffix_of_exponentRun (reads : exponentRun text = .ok rest) : rest <:+ text := by
  unfold exponentRun at reads
  grind

@[local grind →]
theorem suffix_of_fractionRun (reads : fractionRun text = .ok rest) : rest <:+ text := by
  unfold fractionRun at reads
  grind

@[local grind →]
theorem suffix_of_floatTail (reads : floatTail text = .ok rest) : rest <:+ text := by
  unfold floatTail at reads
  grind

@[local grind →]
theorem suffix_of_decimalFloat {value : ExtendedDouble}
    (reads : decimalFloat text = .ok (value, rest)) : rest <:+ text := by
  unfold decimalFloat at reads
  grind

@[local grind →]
theorem suffix_of_wordFloat {value : ExtendedDouble}
    (reads : wordFloat text = .ok (value, rest)) : rest <:+ text := by
  unfold wordFloat at reads
  grind

@[local grind →]
theorem suffix_of_float {value : ExtendedDouble}
    (reads : float text = .ok (value, rest)) : rest <:+ text := by
  unfold float at reads
  grind

@[local grind →]
theorem suffix_of_basedInteger {base : Nat} {start : List Char} {value : Int}
    (reads : basedInteger base start text = .ok (value, rest)) : rest <:+ text := by
  unfold basedInteger at reads
  grind

@[local grind →]
theorem suffix_of_integer {value : Int}
    (reads : integer text = .ok (value, rest)) : rest <:+ text := by
  unfold integer at reads
  grind

/-! ### Dates and times -/

@[local grind →]
theorem suffix_of_fixedNumber {count least most : Nat} {value : Nat}
    (reads : fixedNumber count least most text = .ok (value, rest)) : rest <:+ text := by
  unfold fixedNumber at reads
  grind

@[local grind →]
theorem suffix_of_monthAndDay {year : Nat} {value : List Char}
    (reads : monthAndDay year text = .ok (value, rest)) : rest <:+ text := by
  unfold monthAndDay at reads
  grind

@[local grind →]
theorem suffix_of_date {value : List Char}
    (reads : date text = .ok (value, rest)) : rest <:+ text := by
  unfold date at reads
  grind

theorem suffix_secondFraction (text : List Char) : (secondFraction text).2 <:+ text := by
  unfold secondFraction
  grind

local grind_pattern suffix_secondFraction => secondFraction text

@[local grind →]
theorem suffix_of_minutesAndSeconds {value : List Char}
    (reads : minutesAndSeconds text = .ok (value, rest)) : rest <:+ text := by
  unfold minutesAndSeconds at reads
  grind

@[local grind →]
theorem suffix_of_time {value : List Char}
    (reads : time text = .ok (value, rest)) : rest <:+ text := by
  unfold time at reads
  grind

@[local grind →]
theorem suffix_of_offsetNumbers {sign : Char} {value : List Char}
    (reads : offsetNumbers sign text = .ok (value, rest)) : rest <:+ text := by
  unfold offsetNumbers at reads
  grind

@[local grind →]
theorem suffix_of_offset {value : List Char}
    (reads : offset text = .ok (value, rest)) : rest <:+ text := by
  unfold offset at reads
  grind

@[local grind →]
theorem suffix_of_timeOfDate {value : List Char}
    (reads : timeOfDate text = .ok (value, rest)) : rest <:+ text := by
  unfold timeOfDate at reads
  grind

@[local grind →]
theorem suffix_of_datetime {value : String}
    (reads : datetime text = .ok (value, rest)) : rest <:+ text := by
  unfold datetime at reads
  grind

@[local grind →]
theorem suffix_of_numberOrDate {value : TomlValue}
    (reads : numberOrDate text = .ok (value, rest)) : rest <:+ text := by
  unfold numberOrDate at reads
  grind

/-! ### Strings -/

@[local grind →]
theorem suffix_of_scanBasic {skip : Nat} {read : List Char} {value : String}
    (reads : scanBasic text skip read = .ok (value, rest)) : rest <:+ text := by
  obtain ⟨front, rfl, -⟩ := exists_front_of_scanBasic reads
  exact List.suffix_append front rest

@[local grind →]
theorem suffix_of_scanLiteral {read : List Char} {value : String}
    (reads : scanLiteral text read = .ok (value, rest)) : rest <:+ text := by
  fun_induction scanLiteral text read <;> grind

@[local grind →]
theorem suffix_of_scanLongBasic {skip : Nat} {read : List Char} {value : String}
    (reads : scanLongBasic text skip read = .ok (value, rest)) : rest <:+ text := by
  fun_induction scanLongBasic text skip read <;> grind

@[local grind →]
theorem suffix_of_scanLongLiteral {skip : Nat} {read : List Char} {value : String}
    (reads : scanLongLiteral text skip read = .ok (value, rest)) : rest <:+ text := by
  fun_induction scanLongLiteral text skip read <;> grind

theorem suffix_skipLineBreak (text : List Char) : skipLineBreak text <:+ text := by
  unfold skipLineBreak
  cases breaks : lineBreak? text <;> grind

local grind_pattern suffix_skipLineBreak => skipLineBreak text

@[local grind →]
theorem suffix_of_shortString {value : String}
    (reads : shortString text = .ok (value, rest)) : rest <:+ text := by
  unfold shortString at reads
  grind

@[local grind →]
theorem suffix_of_string {value : String}
    (reads : string text = .ok (value, rest)) : rest <:+ text := by
  unfold string at reads
  grind

/-! ### Keys -/

@[local grind →]
theorem suffix_of_simpleKey {value : String}
    (reads : simpleKey text = .ok (value, rest)) : rest <:+ text := by
  unfold simpleKey at reads
  grind

@[local grind →]
theorem suffix_of_spacedKey {value : String}
    (reads : spacedKey text = .ok (value, rest)) : rest <:+ text := by
  unfold spacedKey at reads
  grind

@[local grind →]
theorem suffix_of_keyTail {fuel : Nat} {names : List String}
    (reads : keyTail fuel text = .ok (names, rest)) : rest <:+ text := by
  fun_induction keyTail fuel text generalizing names rest <;> grind

@[local grind →]
theorem suffix_of_dottedKey {value : List String × String}
    (reads : dottedKey text = .ok (value, rest)) : rest <:+ text := by
  unfold dottedKey at reads
  grind

/-! ### Values -/

@[local grind →]
theorem suffix_of_wordValue {word : List Char} {meaning : TomlValue} {value : TomlValue}
    (reads : wordValue word meaning text = .ok (value, rest)) : rest <:+ text := by
  unfold wordValue at reads
  grind

@[local grind →]
theorem suffix_of_scalar {value : TomlValue}
    (reads : scalar text = .ok (value, rest)) : rest <:+ text := by
  unfold scalar at reads
  grind

/-- The steps that read values in a number of steps leave the rest of their text. -/
structure LeavesRest (fuel : Nat) : Prop where
  value : ∀ {depth text read rest}, value fuel depth text = .ok (read, rest) → rest <:+ text
  items : ∀ {depth text read rest}, items fuel depth text = .ok (read, rest) → rest <:+ text
  spacedItem : ∀ {depth text read rest},
    spacedItem fuel depth text = .ok (read, rest) → rest <:+ text
  pairs : ∀ {depth text read rest}, pairs fuel depth text = .ok (read, rest) → rest <:+ text
  morePairs : ∀ {depth first text read rest},
    morePairs fuel depth first text = .ok (read, rest) → rest <:+ text
  pair : ∀ {depth text read rest}, pair fuel depth text = .ok (read, rest) → rest <:+ text

theorem leavesRest_zero : LeavesRest 0 where
  value reads := by unfold value at reads; grind
  items reads := by unfold items at reads; grind
  spacedItem reads := by unfold spacedItem at reads; grind
  pairs reads := by unfold pairs at reads; grind
  morePairs reads := by unfold morePairs at reads; grind
  pair reads := by unfold pair at reads; grind

theorem LeavesRest.value_succ {fuel depth : Nat} {read : TomlValue} (inner : LeavesRest fuel)
    (reads : TomlReader.value (fuel + 1) depth text = .ok (read, rest)) : rest <:+ text := by
  unfold TomlReader.value at reads
  split at reads
  · grind [→ LeavesRest.items]
  · split at reads
    · cases reads
    · split at reads
      · cases reads
      · next pairs after found =>
          have within := inner.pairs found
          split at reads
          · cases reads
          · grind
  · grind

theorem LeavesRest.succ {fuel : Nat} (inner : LeavesRest fuel) : LeavesRest (fuel + 1) where
  value := inner.value_succ
  items reads := by
    unfold TomlReader.items at reads
    grind [→ LeavesRest.items, → LeavesRest.spacedItem]
  spacedItem reads := by
    unfold TomlReader.spacedItem at reads
    grind [→ LeavesRest.value]
  pairs reads := by
    unfold TomlReader.pairs at reads
    grind [→ LeavesRest.pair, → LeavesRest.morePairs]
  morePairs reads := by
    unfold TomlReader.morePairs at reads
    grind [→ LeavesRest.pair, → LeavesRest.morePairs]
  pair reads := by
    unfold TomlReader.pair at reads
    grind [→ LeavesRest.value]

theorem leavesRest (fuel : Nat) : LeavesRest fuel := by
  induction fuel with
  | zero => exact leavesRest_zero
  | succ fuel inner => exact inner.succ

theorem suffix_of_topValue {value : TomlValue} (reads : topValue text = .ok (value, rest)) :
    rest <:+ text :=
  (leavesRest _).value reads

end TomlReader

end PluginHost
