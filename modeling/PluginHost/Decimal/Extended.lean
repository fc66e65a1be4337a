import PluginHost.Decimal.Layout
import PluginHost.Decimal.Reading

/-!
# Doubles with infinities

Settings may be infinite or no numbers at all.  They print as words; everything finite prints
as a plain decimal.
-/

namespace PluginHost

/-- A double, or what is beyond all of them. -/
inductive ExtendedDouble where
  | finite (value : Double)
  | infinite (negative : Bool)
  | notANumber
deriving DecidableEq

namespace ExtendedDouble

/-- The plain written form. -/
def text : ExtendedDouble → String
  | finite value => DecimalLayout.plain.write value
  | infinite false => "inf"
  | infinite true => "-inf"
  | notANumber => "NaN"

/-- The finite double, if it is one. -/
def finite? : ExtendedDouble → Option Double
  | finite value => some value
  | _ => none

/-- The number that a decimal spells, infinite if it is beyond the largest double. -/
def ofDecimal (text : List Char) : ExtendedDouble :=
  match Double.parse? text with
  | some value => finite value
  | none => infinite (text.head? == some '-')

/-- Whether a text is a decimal: an optional sign, digits with an optional point among them and
an optional exponent. -/
def isDecimal (text : List Char) : Bool :=
  let unsigned := afterSign text
  let whole := unsigned.takeWhile Char.isDigit
  let afterWhole := unsigned.dropWhile Char.isDigit
  let (fraction, rest) :=
    match afterWhole with
    | '.' :: more => (more.takeWhile Char.isDigit, more.dropWhile Char.isDigit)
    | more => ([], more)
  !(whole.isEmpty && fraction.isEmpty) &&
    match rest with
    | [] => true
    | mark :: exponent =>
      (mark == 'e' || mark == 'E') && !(afterSign exponent).isEmpty &&
        (afterSign exponent).all Char.isDigit
where
  /-- The text after an optional sign. -/
  afterSign : List Char → List Char
    | '+' :: rest => rest
    | '-' :: rest => rest
    | rest => rest

end ExtendedDouble

end PluginHost
