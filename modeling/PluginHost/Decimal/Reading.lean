import PluginHost.Decimal.Double

/-!
# Reading decimal texts

Two readings of a decimal text: the exact one, which rounds once to the nearest double, and
the quick one of JSON numbers, which keeps a 64-bit significand and rounds after each
multiplication or division by a power of ten.
-/

namespace PluginHost

/-- The value of a digit character. -/
def digitValue (c : Char) : Nat :=
  c.toNat - '0'.toNat

/-- The value of a run of digits. -/
def digitsValue (digits : List Char) : Nat :=
  digits.foldl (fun value digit => value * 10 + digitValue digit) 0

namespace Double

/-- The double nearest to `digits * 10 ^ exponent`, or none above the largest one.  Exponents
that leave the range of doubles at once are decided without forming the power. -/
def ofScientific? (negative : Bool) (digits : Nat) (exponent : Int) : Option Double :=
  let magnitude : Int := (Nat.toDigits 10 digits).length + exponent
  if digits == 0 || magnitude < -400 then
    some (zero negative)
  else if 400 < magnitude then
    none
  else
    ofFraction? negative (digits * Nat.pow 10 exponent.toNat)
      (Nat.pow 10 (-exponent).toNat)

/-- An unsigned decimal: digits, an optional fraction and an optional exponent, with a digit
before or after the point. -/
def parseUnsigned? (negative : Bool) (text : List Char) : Option Double :=
  let whole := text.takeWhile Char.isDigit
  let afterWhole := text.dropWhile Char.isDigit
  let (fraction, afterFraction) :=
    match afterWhole with
    | '.' :: rest => (rest.takeWhile Char.isDigit, rest.dropWhile Char.isDigit)
    | rest => ([], rest)
  if whole.isEmpty && fraction.isEmpty then
    none
  else
    let digits := digitsValue (whole ++ fraction)
    let shift : Int := -(fraction.length : Int)
    match afterFraction with
    | [] => ofScientific? negative digits shift
    | mark :: rest =>
      if mark == 'e' || mark == 'E' then
        let (negativeExponent, exponentDigits) :=
          match rest with
          | '-' :: more => (true, more)
          | '+' :: more => (false, more)
          | more => (false, more)
        if exponentDigits.isEmpty || !exponentDigits.all Char.isDigit then
          none
        else
          let exponent : Int := digitsValue exponentDigits
          ofScientific? negative digits
            (if negativeExponent then shift - exponent else shift + exponent)
      else
        none

/-- A decimal text with an optional sign, read exactly; none if it is malformed or rounds to
an infinity. -/
def parse? (text : List Char) : Option Double :=
  match text with
  | '-' :: rest => parseUnsigned? true rest
  | '+' :: rest => parseUnsigned? false rest
  | rest => parseUnsigned? false rest

/-- The power of ten nearest to `10 ^ exponent`. -/
def powerOfTen (exponent : Nat) : Double :=
  (ofFraction? false (Nat.pow 10 exponent) 1).getD (zero false)

/-- Scales a double by a power of ten as the quick reading does: one rounded operation for an
exponent of at most 308, and repeated division by `1e308` below that. -/
def quickScale? : Nat → Double → Int → Option Double
  | 0, number, _ => some number
  | fuel + 1, number, exponent =>
    if exponent.natAbs ≤ 308 then
      if 0 ≤ exponent then
        mul? number (powerOfTen exponent.natAbs)
      else
        div? number (powerOfTen exponent.natAbs)
    else if number.isZero then
      some number
    else if 0 ≤ exponent then
      none
    else
      match div? number (powerOfTen 308) with
      | some smaller => quickScale? fuel smaller (exponent + 308)
      | none => none

/-- The quick reading of a significand below `2 ^ 64` and an exponent. -/
def ofQuickScientific? (negative : Bool) (significand : Nat) (exponent : Int) : Option Double :=
  match ofFraction? false significand 1 with
  | some number => (quickScale? 8 number exponent).map (withSign negative)
  | none => none

end Double

end PluginHost
