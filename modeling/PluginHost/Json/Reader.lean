import PluginHost.Decimal.Reading
import PluginHost.Json.Fault

/-!
# Reading JSON

The reader takes symbols from the front of a stream and leaves the rest, or stops at the
first fault.  Arrays and objects nest to a depth of 127.  Of two fields with one key the
later one stays.  A number without point and exponent is a whole number if it is in the exact
range, except that `-0` is the double of that sign; every other number is read as a double
by the quick reading.
-/

namespace PluginHost

open Text

namespace JsonReader

/-- What a reading step gives: a value and the symbols after it, or a fault. -/
abbrev Step (α : Type) := Except JsonFault (α × List Symbol)

/-- A fault right before the symbols that are left. -/
def faultHere {α : Type} (problem : JsonProblem) (rest : List Symbol) : Except JsonFault α :=
  .error ⟨problem, rest, 0⟩

/-- A fault at the next byte, which counts as read. -/
def faultNext {α : Type} (problem : JsonProblem) (rest : List Symbol) : Except JsonFault α :=
  .error ⟨problem, rest, 1⟩

/-- Whether a symbol separates tokens. -/
def isSeparator : Symbol → Bool
  | some c => c == ' ' || c == '\n' || c == '\t' || c == '\r'
  | none => false

/-- The stream after its leading separators. -/
def skipSeparators : List Symbol → List Symbol
  | [] => []
  | symbol :: rest => if isSeparator symbol then skipSeparators rest else symbol :: rest

/-- The digit at the front of a stream. -/
def nextDigit? : List Symbol → Option (Nat × List Symbol)
  | some c :: rest => if c.isDigit then some (digitValue c, rest) else none
  | _ => none

/-- The stream after its leading digits, and their number. -/
def skipDigits : List Symbol → Nat → Nat × List Symbol
  | some c :: rest, count =>
    if c.isDigit then skipDigits rest (count + 1) else (count, some c :: rest)
  | rest, count => (count, rest)

/-- Whether the stream goes on with an exponent mark. -/
def startsExponent : List Symbol → Bool
  | some c :: _ => c == 'e' || c == 'E'
  | _ => false

/-- The rest of a word whose first letter has been read. -/
def word : List Char → List Symbol → Except JsonFault (List Symbol)
  | [], rest => .ok rest
  | _ :: _, [] => faultHere .endInValue []
  | c :: more, symbol :: rest =>
    if symbol == some c then word more rest else faultNext .expectedIdent (symbol :: rest)

/-! ### Numbers -/

/-- The greatest significand that is kept. -/
def greatestSignificand : Nat :=
  Nat.pow 2 64 - 1

/-- The greatest exponent that is told apart from larger ones. -/
def greatestExponent : Nat :=
  Nat.pow 2 31 - 1

/-- Reads digits onto a significand until there are no more or one would not fit.  Gives the
significand, the number of digits read and whether it stopped at a digit. -/
def significand : List Symbol → Nat → Nat → Nat × Nat × Bool × List Symbol
  | some c :: rest, value, count =>
    if c.isDigit then
      let extended := value * 10 + digitValue c
      if greatestSignificand < extended then (value, count, true, some c :: rest)
      else significand rest extended (count + 1)
    else (value, count, false, some c :: rest)
  | rest, value, count => (value, count, false, rest)

/-- The double of a significand and an exponent. -/
def ofParts (negative : Bool) (value : Nat) (exponent : Int) (rest : List Symbol) :
    Step JsonNumber :=
  match Double.ofQuickScientific? negative value exponent with
  | some number => .ok (.double number, rest)
  | none => faultHere .numberOutOfRange rest

/-- Reads exponent digits onto a value; none if it grows too large, with the stream after the
digit that made it so. -/
def exponentDigits : List Symbol → Nat → Option Nat × List Symbol
  | some c :: rest, value =>
    if c.isDigit then
      let extended := value * 10 + digitValue c
      if greatestExponent < extended then (none, rest) else exponentDigits rest extended
    else (some value, some c :: rest)
  | rest, value => (some value, rest)

/-- The sign of an exponent, and the stream after it. -/
def exponentSign : List Symbol → Bool × List Symbol
  | some '+' :: rest => (false, rest)
  | some '-' :: rest => (true, rest)
  | rest => (false, rest)

/-- The exponent part of a number, from the mark on. -/
def exponentPart (negative : Bool) (value : Nat) (start : Int) (stream : List Symbol) :
    Step JsonNumber :=
  match exponentSign (stream.drop 1) with
  | (_, []) => faultHere .endInValue []
  | (negativeExponent, rest@(_ :: _)) =>
    match nextDigit? rest with
    | none => faultNext .invalidNumber rest
    | some (digit, rest) =>
      match exponentDigits rest digit with
      | (some exponent, rest) =>
        ofParts negative value
          (if negativeExponent then start - exponent else start + exponent) rest
      | (none, rest) =>
        if value != 0 && !negativeExponent then
          faultHere .numberOutOfRange rest
        else
          .ok (.double (Double.zero negative), (skipDigits rest 0).2)

/-- The end of a number after its fraction. -/
def afterFraction (negative : Bool) (value : Nat) (exponent : Int) (rest : List Symbol) :
    Step JsonNumber :=
  if startsExponent rest then exponentPart negative value exponent rest
  else ofParts negative value exponent rest

/-- The fraction of a number, after the point. -/
def fractionPart (negative : Bool) (value : Nat) (start : Int) (stream : List Symbol) :
    Step JsonNumber :=
  match significand stream value 0 with
  | (value, count, true, rest) =>
    afterFraction negative value (start - count) (skipDigits rest 0).2
  | (_, 0, false, rest) =>
    faultNext (if rest.isEmpty then .endInValue else .invalidNumber) rest
  | (value, count, false, rest) => afterFraction negative value (start - count) rest

/-- A number whose whole part fits, after that part. -/
def afterWhole (negative : Bool) (value : Nat) (stream : List Symbol) : Step JsonNumber :=
  match stream with
  | some '.' :: rest => fractionPart negative value 0 rest
  | rest =>
    if startsExponent rest then
      exponentPart negative value 0 rest
    else
      let whole : Int := if negative then -(value : Int) else value
      if negative && (value == 0 || !decide (IsJsonInteger whole)) then
        ofParts negative value 0 rest
      else
        .ok (JsonNumber.ofInt whole, rest)

/-- A number whose whole part does not fit, from the first digit that is left out. -/
def afterLongWhole (negative : Bool) (value : Nat) (stream : List Symbol) : Step JsonNumber :=
  match skipDigits stream 0 with
  | (count, some '.' :: rest) => fractionPart negative value count rest
  | (count, rest) => afterFraction negative value count rest

/-- A number after its sign. -/
def number (negative : Bool) (stream : List Symbol) : Step JsonNumber :=
  match stream with
  | [] => faultHere .endInValue []
  | some '0' :: rest =>
    if (nextDigit? rest).isSome then faultNext .invalidNumber rest
    else afterWhole negative 0 rest
  | _ =>
    match nextDigit? stream with
    | none => faultNext .invalidNumber stream
    | some _ =>
      match significand stream 0 0 with
      | (value, _, false, rest) => afterWhole negative value rest
      | (value, _, true, rest) => afterLongWhole negative value rest

/-! ### Strings -/

/-- The value of a hexadecimal digit. -/
def hexDigit? : Symbol → Option Nat
  | some c =>
    if c.isDigit then some (c.toNat - '0'.toNat)
    else if 'a' ≤ c && c ≤ 'f' then some (c.toNat - 'a'.toNat + 10)
    else if 'A' ≤ c && c ≤ 'F' then some (c.toNat - 'A'.toNat + 10)
    else none
  | none => none

/-- Four hexadecimal digits. -/
def hexEscape (stream : List Symbol) : Step Nat :=
  let malformed : Step Nat :=
    if symbolsSize (stream.take 4) < 4 then faultHere .endInString []
    else .error ⟨.invalidEscape, stream, 4⟩
  match stream with
  | a :: b :: c :: d :: rest =>
    match hexDigit? a, hexDigit? b, hexDigit? c, hexDigit? d with
    | some a, some b, some c, some d => .ok (((a * 16 + b) * 16 + c) * 16 + d, rest)
    | _, _, _, _ => malformed
  | _ => malformed

/-- The second half of a surrogate pair, after the first unit. -/
def trailingSurrogate (leading : Nat) (stream : List Symbol) : Step Char :=
  match stream with
  | [] => faultHere .endInString []
  | some '\\' :: [] => faultHere .endInString []
  | some '\\' :: some 'u' :: rest =>
    match hexEscape rest with
    | .error fault => .error fault
    | .ok (trailing, rest) =>
      if trailing < 0xdc00 || 0xdfff < trailing then
        faultHere .loneSurrogate rest
      else
        .ok (Char.ofNat (0x10000 + (leading - 0xd800) * 1024 + (trailing - 0xdc00)), rest)
  | some '\\' :: rest => faultNext .unfinishedSurrogate rest
  | rest => faultNext .unfinishedSurrogate rest

/-- A character by its code, after `\u`: one unit, or a leading and a trailing surrogate. -/
def unicodeEscape (stream : List Symbol) : Step Char :=
  match hexEscape stream with
  | .error fault => .error fault
  | .ok (unit, rest) =>
    if 0xdc00 ≤ unit && unit ≤ 0xdfff then
      faultHere .loneSurrogate rest
    else if unit < 0xd800 || 0xdbff < unit then
      .ok (Char.ofNat unit, rest)
    else
      trailingSurrogate unit rest

/-- The character of a one-letter escape. -/
def simpleEscape? (c : Char) : Option Char :=
  if c == '"' || c == '\\' || c == '/' then some c
  else if c == 'b' then some '\x08'
  else if c == 'f' then some '\x0c'
  else if c == 'n' then some '\n'
  else if c == 'r' then some '\r'
  else if c == 't' then some '\t'
  else none

/-- A character by its escape, after the backslash. -/
def escape (stream : List Symbol) : Step Char :=
  match stream with
  | [] => faultHere .endInString []
  | some 'u' :: rest => unicodeEscape rest
  | some c :: rest =>
    match simpleEscape? c with
    | some meant => .ok (meant, rest)
    | none => faultNext .invalidEscape (some c :: rest)
  | none :: rest => faultNext .invalidEscape (none :: rest)

/-- The rest of a string onto the characters read so far.  A stray byte is a fault right
before the quote that ends the string. -/
def stringOnto : Nat → Bool → List Char → List Symbol → Step String
  | 0, _, _, stream => faultHere .endInString stream
  | fuel + 1, clean, read, stream =>
    match stream with
    | [] => faultHere .endInString []
    | none :: rest => stringOnto fuel false read rest
    | some c :: rest =>
      if c == '"' then
        if clean then .ok (String.ofList read.reverse, rest)
        else faultHere .invalidCodePoint (some c :: rest)
      else if c == '\\' then
        match escape rest with
        | .ok (meant, rest) => stringOnto fuel clean (meant :: read) rest
        | .error fault => .error fault
      else if c.toNat < 0x20 then
        faultNext .controlCharacter (some c :: rest)
      else
        stringOnto fuel clean (c :: read) rest

/-- A string after its opening quote. -/
def string (stream : List Symbol) : Step String :=
  stringOnto (stream.length + 1) true [] stream

/-! ### Values -/

/-- A field's key and the colon after it. -/
def key (stream : List Symbol) : Step String :=
  match string stream with
  | .error fault => .error fault
  | .ok (name, rest) =>
    match skipSeparators rest with
    | some ':' :: rest => .ok (name, rest)
    | [] => faultNext .endInObject []
    | rest => faultNext .expectedColon rest

/-- The stream at the next item of an array, or after its closing bracket. -/
inductive Continuation where
  | closed (rest : List Symbol)
  | next (stream : List Symbol)

/-- Goes on to the next item of an array. -/
def nextItem (isFirst : Bool) (stream : List Symbol) : Except JsonFault Continuation :=
  match skipSeparators stream with
  | [] => faultNext .endInList []
  | some ']' :: rest => .ok (.closed rest)
  | some ',' :: rest =>
    if isFirst then
      .ok (.next (some ',' :: rest))
    else
      match skipSeparators rest with
      | [] => faultNext .endInValue []
      | some ']' :: rest => faultNext .trailingComma (some ']' :: rest)
      | rest => .ok (.next rest)
  | rest => if isFirst then .ok (.next rest) else faultNext .expectedListCommaOrEnd rest

/-- Goes on to the next field of an object, past the quote that opens its key. -/
def nextField (isFirst : Bool) (stream : List Symbol) : Except JsonFault Continuation :=
  match skipSeparators stream with
  | [] => faultNext .endInObject []
  | some '\x7d' :: rest => .ok (.closed rest)
  | some '"' :: rest =>
    if isFirst then .ok (.next rest)
    else faultNext .expectedObjectCommaOrEnd (some '"' :: rest)
  | some ',' :: rest =>
    if isFirst then
      faultNext .keyNotString (some ',' :: rest)
    else
      match skipSeparators rest with
      | [] => faultNext .endInValue []
      | some '"' :: rest => .ok (.next rest)
      | some '\x7d' :: rest => faultNext .trailingComma (some '\x7d' :: rest)
      | rest => faultNext .keyNotString rest
  | rest =>
    faultNext (if isFirst then .keyNotString else .expectedObjectCommaOrEnd) rest

mutual

/-- A value, in arrays and objects that may nest to below the given depth. -/
def value : Nat → Nat → List Symbol → Step Json
  | 0, _, stream => faultHere .endInValue stream
  | fuel + 1, depth, stream =>
    match skipSeparators stream with
    | [] => faultNext .endInValue []
    | some 'n' :: rest => (word ['u', 'l', 'l'] rest).map fun rest => (.null, rest)
    | some 't' :: rest => (word ['r', 'u', 'e'] rest).map fun rest => (.bool true, rest)
    | some 'f' :: rest => (word ['a', 'l', 's', 'e'] rest).map fun rest => (.bool false, rest)
    | some '-' :: rest => (number true rest).map fun (found, rest) => (.number found, rest)
    | some '"' :: rest => (string rest).map fun (found, rest) => (.string found, rest)
    | some '[' :: rest =>
      if depth ≤ 1 then faultNext .tooDeep (some '[' :: rest)
      else items fuel (depth - 1) true [] rest
    | some '\x7b' :: rest =>
      if depth ≤ 1 then faultNext .tooDeep (some '\x7b' :: rest)
      else fields fuel (depth - 1) true [] rest
    | rest =>
      if (nextDigit? rest).isSome then
        (number false rest).map fun (found, rest) => (.number found, rest)
      else
        faultNext .expectedValue rest

/-- The items of an array onto those read so far, and its closing bracket. -/
def items : Nat → Nat → Bool → List Json → List Symbol → Step Json
  | 0, _, _, _, stream => faultHere .endInValue stream
  | fuel + 1, depth, isFirst, read, stream =>
    match nextItem isFirst stream with
    | .error fault => .error fault
    | .ok (.closed rest) => .ok (.array read.reverse, rest)
    | .ok (.next rest) =>
      match value fuel depth rest with
      | .error fault => .error fault
      | .ok (item, rest) => items fuel depth false (item :: read) rest

/-- The fields of an object put into those read so far, and its closing brace. -/
def fields : Nat → Nat → Bool → JsonFields → List Symbol → Step Json
  | 0, _, _, _, stream => faultHere .endInValue stream
  | fuel + 1, depth, isFirst, read, stream =>
    match nextField isFirst stream with
    | .error fault => .error fault
    | .ok (.closed rest) => .ok (.object read, rest)
    | .ok (.next rest) =>
      match key rest with
      | .error fault => .error fault
      | .ok (name, rest) =>
        match value fuel depth rest with
        | .error fault => .error fault
        | .ok (found, rest) => fields fuel depth false (KeyedList.insert name found read) rest

end

/-- The depth to which arrays and objects may nest, and one more. -/
def depthLimit : Nat :=
  128

/-- Steps that suffice to read any value from a stream. -/
def fuelFor (stream : List Symbol) : Nat :=
  2 * stream.length + 2

/-- A value at the front of a stream. -/
def readValue (stream : List Symbol) : Step Json :=
  value (fuelFor stream) depthLimit stream

/-- Requires that only separators are left. -/
def finish {α : Type} (found : α) (rest : List Symbol) : Except JsonFault α :=
  match skipSeparators rest with
  | [] => .ok found
  | rest => faultNext .trailingCharacters rest

end JsonReader

namespace Json

/-- The value that a whole stream spells. -/
def read (stream : List Symbol) : Except JsonFault Json :=
  match JsonReader.readValue stream with
  | .ok (value, rest) => JsonReader.finish value rest
  | .error fault => .error fault

/-- The value that a text spells, or the wording of its first fault. -/
def parse (text : String) : Except String Json :=
  let stream := symbolsOf text
  (read stream).mapError fun fault => fault.message stream

end Json

end PluginHost
