import PluginHost.Decimal.Integer
import PluginHost.Toml.Basic

/-!
# Numbers, dates and times in TOML

Digits may be grouped by underscores, each between two digits.  Integers are signed and of 64
bits; they may be hexadecimal, octal or binary.  Dates and times are checked part by part and
kept in a written form with a `T` between them and fractions without trailing zeros.
-/

namespace PluginHost

namespace TomlReader

/-- The characters that were read between two texts. -/
def between (text rest : List Char) : List Char :=
  text.take (text.length - rest.length)

/-- The digits of a number without the underscores between them. -/
def ungrouped (digits : List Char) : List Char :=
  digits.filter (· != '_')

/-- The text after further digits and underscores, each before a digit. -/
def moreDigits (isDigit : Char → Bool) : List Char → Except TomlFault (List Char)
  | '_' :: c :: rest => if isDigit c then moreDigits isDigit rest else final (c :: rest)
  | ['_'] => final []
  | c :: rest => if isDigit c then moreDigits isDigit rest else .ok (c :: rest)
  | [] => .ok []

/-- The text after a run of digits, zeros in front allowed. -/
def digitRun (isDigit : Char → Bool) (text : List Char) : Except TomlFault (List Char) :=
  match text with
  | c :: rest => if isDigit c then moreDigits isDigit rest else soft text
  | [] => soft []

/-- The text after an optional sign. -/
def skipSign : List Char → List Char
  | '+' :: rest => rest
  | '-' :: rest => rest
  | text => text

/-- The text after a decimal integer; a leading zero stands alone. -/
def decimalRun (text : List Char) : Except TomlFault (List Char) :=
  match skipSign text with
  | '0' :: rest => .ok rest
  | rest => digitRun Char.isDigit rest

/-! ### Floats -/

/-- The text after an exponent. -/
def exponentRun (text : List Char) : Except TomlFault (List Char) :=
  match text with
  | c :: rest =>
    if c == 'e' || c == 'E' then committed (digitRun Char.isDigit (skipSign rest)) else soft text
  | [] => soft []

/-- The text after a fraction. -/
def fractionRun (text : List Char) : Except TomlFault (List Char) :=
  match text with
  | '.' :: rest => committed (digitRun Char.isDigit rest)
  | text => soft text

/-- The text after an exponent, or after a fraction and an optional exponent. -/
def floatTail (text : List Char) : Except TomlFault (List Char) :=
  match exponentRun text with
  | .ok rest => .ok rest
  | .error fault =>
    if fault.isFinal then .error fault
    else
      match fractionRun text with
      | .error fault => .error fault
      | .ok rest =>
        match exponentRun rest with
        | .ok rest => .ok rest
        | .error fault => if fault.isFinal then .error fault else .ok rest

/-- A float with a fraction or an exponent; one above the largest double is refused. -/
def decimalFloat (text : List Char) : Step ExtendedDouble :=
  match decimalRun text with
  | .error fault => .error fault
  | .ok rest =>
    match floatTail rest with
    | .error fault => .error fault
    | .ok rest =>
      match ExtendedDouble.ofDecimal (ungrouped (between text rest)) with
      | .infinite false => final text
      | value => .ok (value, rest)

/-- An infinity or no number, by its word. -/
def wordFloat (text : List Char) : Step ExtendedDouble :=
  match skipSign text with
  | 'i' :: 'n' :: 'f' :: rest => .ok (.infinite (text.head? == some '-'), rest)
  | 'n' :: 'a' :: 'n' :: rest => .ok (.notANumber, rest)
  | rest => soft rest

/-- A float. -/
def float (text : List Char) : Step ExtendedDouble :=
  orElse (decimalFloat text) fun _ => wordFloat text

/-! ### Integers -/

/-- The value of a digit of a base up to sixteen. -/
def baseDigit? (base : Nat) (c : Char) : Option Nat :=
  let value :=
    if c.isDigit then some (c.toNat - '0'.toNat)
    else if 'a' ≤ c && c ≤ 'f' then some (c.toNat - 'a'.toNat + 10)
    else if 'A' ≤ c && c ≤ 'F' then some (c.toNat - 'A'.toNat + 10)
    else none
  value.filter (· < base)

/-- An integer of another base, after the mark of its base. -/
def basedInteger (base : Nat) (start text : List Char) : Step Int :=
  match committed (digitRun (fun c => (baseDigit? base c).isSome) text) with
  | .error fault => .error fault
  | .ok rest =>
    let value := (ungrouped (between text rest)).foldl
      (fun value c => value * base + (baseDigit? base c).getD 0) 0
    if value < Nat.pow 2 63 then .ok (value, rest) else final start

/-- An integer. -/
def integer (text : List Char) : Step Int :=
  match text with
  | '0' :: 'x' :: rest => basedInteger 16 text rest
  | '0' :: 'o' :: rest => basedInteger 8 text rest
  | '0' :: 'b' :: rest => basedInteger 2 text rest
  | text =>
    match decimalRun text with
    | .error fault => .error fault
    | .ok rest =>
      match IntegerRange.signed64.parse (ungrouped (between text rest)) with
      | .ok value => .ok (value, rest)
      | .error _ => final text

/-! ### Dates and times -/

/-- A number of exactly `count` digits in a range. -/
def fixedNumber (count least most : Nat) (text : List Char) : Step Nat :=
  let digits := text.take count
  if digits.length == count && digits.all Char.isDigit then
    let value := digitsValue digits
    if least ≤ value && value ≤ most then .ok (value, text.drop count) else soft text
  else
    soft text

/-- A number with zeros in front of it, up to a number of digits. -/
def padded (count value : Nat) : List Char :=
  let digits := Nat.toDigits 10 value
  List.replicate (count - digits.length) '0' ++ digits

/-- The number of days of a month. -/
def daysOfMonth (year month : Nat) : Nat :=
  if month == 2 then
    if year % 4 == 0 && (year % 100 != 0 || year % 400 == 0) then 29 else 28
  else if month == 4 || month == 6 || month == 9 || month == 11 then 30
  else 31

/-- The month and the day of a date, after the year and its dash. -/
def monthAndDay (year : Nat) (text : List Char) : Step (List Char) :=
  match fixedNumber 2 1 12 text with
  | .error fault => .error fault
  | .ok (month, rest) =>
    match expect '-' rest with
    | .error fault => .error fault
    | .ok rest =>
      match fixedNumber 2 1 31 rest with
      | .error fault => .error fault
      | .ok (day, after) =>
        if daysOfMonth year month < day then soft rest
        else .ok (padded 4 year ++ '-' :: padded 2 month ++ '-' :: padded 2 day, after)

/-- A date. -/
def date (text : List Char) : Step (List Char) :=
  match fixedNumber 4 0 9999 text with
  | .error fault => .error fault
  | .ok (year, rest) =>
    match expect '-' rest with
    | .error fault => .error fault
    | .ok rest => committed (monthAndDay year rest)

/-- The written form of a fraction of a second: at most nine digits, no zeros at the end. -/
def writtenFraction (digits : List Char) : List Char :=
  match ((digits.take 9).reverse.dropWhile (· == '0')).reverse with
  | [] => []
  | kept => '.' :: kept

/-- The fraction of a second, empty if there is none. -/
def secondFraction (text : List Char) : List Char × List Char :=
  match text with
  | '.' :: c :: rest =>
    if c.isDigit then
      (writtenFraction (c :: rest.takeWhile Char.isDigit), rest.dropWhile Char.isDigit)
    else
      ([], text)
  | text => ([], text)

/-- The minutes and seconds of a time, after the hour and its colon. -/
def minutesAndSeconds (text : List Char) : Step (List Char) :=
  match fixedNumber 2 0 59 text with
  | .error fault => .error fault
  | .ok (minute, rest) =>
    match expect ':' rest with
    | .error fault => .error fault
    | .ok rest =>
      match fixedNumber 2 0 60 rest with
      | .error fault => .error fault
      | .ok (second, rest) =>
        let (fraction, rest) := secondFraction rest
        .ok (padded 2 minute ++ ':' :: padded 2 second ++ fraction, rest)

/-- A time of the day. -/
def time (text : List Char) : Step (List Char) :=
  match fixedNumber 2 0 23 text with
  | .error fault => .error fault
  | .ok (hour, rest) =>
    match expect ':' rest with
    | .error fault => .error fault
    | .ok rest =>
      (committed (minutesAndSeconds rest)).map fun (written, rest) =>
        (padded 2 hour ++ ':' :: written, rest)

/-- The hours and minutes of an offset, after its sign. -/
def offsetNumbers (sign : Char) (text : List Char) : Step (List Char) :=
  match fixedNumber 2 0 23 text with
  | .error fault => .error fault
  | .ok (hour, rest) =>
    match expect ':' rest with
    | .error fault => .error fault
    | .ok rest =>
      (fixedNumber 2 0 59 rest).map fun (minute, rest) =>
        let sign := if hour == 0 && minute == 0 then '+' else sign
        (sign :: padded 2 hour ++ ':' :: padded 2 minute, rest)

/-- The offset of a time from universal time. -/
def offset (text : List Char) : Step (List Char) :=
  match text with
  | 'Z' :: rest => .ok (['Z'], rest)
  | 'z' :: rest => .ok (['Z'], rest)
  | '+' :: rest => committed (offsetNumbers '+' rest)
  | '-' :: rest => committed (offsetNumbers '-' rest)
  | text => soft text

/-- The time of a date, after the mark between them, and its optional offset. -/
def timeOfDate (text : List Char) : Step (List Char) :=
  match text with
  | c :: rest =>
    if c == 'T' || c == 't' || c == ' ' then
      match time rest with
      | .error fault => .error fault
      | .ok (written, rest) =>
        (optionally rest (offset rest)).map fun (zone, rest) =>
          ('T' :: written ++ zone.getD [], rest)
    else
      soft text
  | [] => soft []

/-- A date with an optional time, or a time. -/
def datetime (text : List Char) : Step String :=
  (orElse
    (match date text with
      | .error fault => .error fault
      | .ok (written, rest) =>
        (optionally rest (timeOfDate rest)).map fun (more, rest) =>
          (written ++ more.getD [], rest))
    fun _ => time text).map fun (written, rest) => (String.ofList written, rest)

/-- A number, a date or a time. -/
def numberOrDate (text : List Char) : Step TomlValue :=
  orElse ((datetime text).map fun (value, rest) => (.datetime value, rest)) fun _ =>
    orElse ((float text).map fun (value, rest) => (.float value, rest)) fun _ =>
      (integer text).map fun (value, rest) => (.integer value, rest)

end TomlReader

end PluginHost
