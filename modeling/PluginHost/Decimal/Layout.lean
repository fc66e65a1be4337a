import PluginHost.Decimal.Shortest

/-!
# Written forms of doubles

A layout says which exponents are written positionally, whether a whole number keeps a
fraction digit and how an exponent is spelled; the digits are always the shortest ones.
-/

namespace PluginHost

/-- How the digits of a double are laid out. -/
structure DecimalLayout where
  /-- The least exponent of the leading digit that is written positionally, if bounded. -/
  least : Option Int
  /-- The greatest exponent of the leading digit that is written positionally, if bounded. -/
  greatest : Option Int
  /-- Whether a whole number is followed by `.0`. -/
  keepsFraction : Bool
  /-- Whether a positive exponent carries a plus sign. -/
  signsExponent : Bool

namespace DecimalLayout

/-- JSON numbers: positional from `1e-5` up to below `1e16`, always with a fraction or an
exponent, which carries its sign. -/
def json : DecimalLayout :=
  ⟨some (-5), some 15, true, true⟩

/-- Plain numbers: always positional, and without a fraction where there is none. -/
def plain : DecimalLayout :=
  ⟨none, none, false, false⟩

/-- Whether the leading exponent is written positionally. -/
def isPositional (layout : DecimalLayout) (leading : Int) : Bool :=
  (match layout.least with
    | some least => decide (least ≤ leading)
    | none => true) &&
  (match layout.greatest with
    | some greatest => decide (leading ≤ greatest)
    | none => true)

/-- The digits with a point after `whole` of them, padded with zeros on either side. -/
def positional (keepsFraction : Bool) (digits : List Char) (whole : Int) : List Char :=
  if whole ≤ 0 then
    '0' :: '.' :: (List.replicate (-whole).toNat '0' ++ digits)
  else if digits.length ≤ whole.toNat then
    let padded := digits ++ List.replicate (whole.toNat - digits.length) '0'
    if keepsFraction then padded ++ ['.', '0'] else padded
  else
    digits.take whole.toNat ++ '.' :: digits.drop whole.toNat

/-- The digits with a point after the first one, and the exponent of that one. -/
def scientific (signsExponent : Bool) (digits : List Char) (leading : Int) : List Char :=
  let mantissa :=
    match digits with
    | [] => []
    | [digit] => [digit]
    | digit :: rest => digit :: '.' :: rest
  let sign := if leading < 0 then ['-'] else if signsExponent then ['+'] else []
  mantissa ++ 'e' :: (sign ++ Nat.toDigits 10 leading.natAbs)

/-- The written form of a double. -/
def write (layout : DecimalLayout) (number : Double) : String :=
  let sign := if number.negative then ['-'] else []
  let body :=
    if number.isZero then
      if layout.keepsFraction then ['0', '.', '0'] else ['0']
    else
      let decimal := Decimal.shortest number
      let digits := Nat.toDigits 10 decimal.digits
      let leading := decimal.exponent + digits.length - 1
      if layout.isPositional leading then
        positional layout.keepsFraction digits (leading + 1)
      else
        scientific layout.signsExponent digits leading
  String.ofList (sign ++ body)

end DecimalLayout

end PluginHost
