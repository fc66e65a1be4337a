import PluginHost.Decimal.Double

/-!
# Similarity of texts

The Jaro-Winkler similarity of two texts: how many characters they share at nearby positions,
how many of these stand in another order, and, for texts that are similar at all, how far they
begin alike.  It is a number from zero to one, computed in doubles.
-/

namespace PluginHost.Text

/-- The double nearest to a fraction, for fractions that are in range. -/
def ratio (numerator denominator : Nat) : Double :=
  (Double.ofFraction? false numerator denominator).getD (.zero false)

/-- A sum that is in range. -/
def total (left right : Double) : Double :=
  (left.add? right).getD (.zero false)

/-- A product that is in range. -/
def product (left right : Double) : Double :=
  (left.mul? right).getD (.zero false)

/-- The first position of a character in a range that has not been taken. -/
def freePosition? (c : Char) (right : Array Char) (taken : List Nat) (first last : Nat) :
    Option Nat :=
  (List.range (min last right.size)).find? fun position =>
    first ≤ position && right[position]? == some c && !taken.contains position

/-- The pairs of shared characters, as positions: each character of the left text, in order,
takes the first equal one that is free within reach. -/
def sharedPairs (left : List Char) (right : Array Char) (reach : Nat) : List (Nat × Nat) :=
  ((List.range left.length).zip left).foldl (fun pairs (position, c) =>
    match freePosition? c right (pairs.map Prod.snd) (position - reach) (position + reach + 1) with
    | some found => pairs ++ [(position, found)]
    | none => pairs) []

/-- The Jaro similarity: the mean of the shares of both texts that are shared and of the share
of those that stand in the same order. -/
def jaroSimilarity (left right : String) : Double :=
  let leftChars := left.toList
  let rightChars := right.toList.toArray
  let longer := max leftChars.length rightChars.size
  if longer == 0 then
    ratio 1 1
  else
    let pairs := sharedPairs leftChars rightChars (longer / 2 - 1)
    let shared := pairs.length
    if shared == 0 then
      .zero false
    else
      let inLeft := pairs.map fun pair => leftChars.toArray[pair.1]?
      let inRight := ((pairs.map Prod.snd).mergeSort (· ≤ ·)).map fun place => rightChars[place]?
      let misplaced := (inLeft.zip inRight).countP fun pair => pair.1 != pair.2
      let sum :=
        total
          (total (ratio shared leftChars.length) (ratio shared rightChars.size))
          (ratio (shared - misplaced / 2) shared)
      (sum.div? (ratio 3 1)).getD (.zero false)

/-- The number of characters, at most four, in which two texts begin alike. -/
def commonStart (left right : String) : Nat :=
  (((left.toList.take 4).zip right.toList).takeWhile fun pair => pair.1 == pair.2).length

/-- The Jaro-Winkler similarity, which raises a Jaro similarity above 0.7 by a tenth of what it
lacks for each character of the common start. -/
def similarity (left right : String) : Double :=
  let base := jaroSimilarity left right
  if (ratio 7 10).steps < base.steps then
    let lack := ((ratio 1 1).sub? base).getD (.zero false)
    total base (product (product (ratio 1 10) (ratio (commonStart left right) 1)) lack)
  else
    base

end PluginHost.Text
