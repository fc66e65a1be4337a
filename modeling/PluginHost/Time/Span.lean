/-!
# Spans of time

A span is a number of nanoseconds.  Its text uses the largest unit of which there is at least
one, seconds, milliseconds, microseconds or nanoseconds, with the rest as a fraction without
trailing zeros.
-/

namespace PluginHost

/-- A span of time. -/
structure Span where
  nanoseconds : Nat
deriving DecidableEq, Repr

namespace Span

instance : LT Span := ⟨fun left right => left.nanoseconds < right.nanoseconds⟩

instance (left right : Span) : Decidable (left < right) :=
  inferInstanceAs (Decidable (left.nanoseconds < right.nanoseconds))

/-- A number of milliseconds. -/
def ofMilliseconds (count : Nat) : Span :=
  ⟨count * 1000000⟩

/-- A number of seconds. -/
def ofSeconds (count : Nat) : Span :=
  ⟨count * 1000000000⟩

/-- The whole milliseconds in a span. -/
def milliseconds (span : Span) : Nat :=
  span.nanoseconds / 1000000

/-- A fraction of `rest / 10 ^ places`, without trailing zeros and empty for zero. -/
def fraction (places rest : Nat) : List Char :=
  let digits := Nat.toDigits 10 rest
  let padded := List.replicate (places - digits.length) '0' ++ digits
  let kept := (padded.reverse.dropWhile (· == '0')).reverse
  if rest == 0 then [] else '.' :: kept

/-- A count of a unit that holds `10 ^ places` nanoseconds. -/
def inUnit (span : Span) (places : Nat) (unit : String) : String :=
  let size := Nat.pow 10 places
  String.ofList (Nat.toDigits 10 (span.nanoseconds / size)) ++
    String.ofList (fraction places (span.nanoseconds % size)) ++ unit

/-- The text of a span. -/
def text (span : Span) : String :=
  if 1000000000 ≤ span.nanoseconds then span.inUnit 9 "s"
  else if 1000000 ≤ span.nanoseconds then span.inUnit 6 "ms"
  else if 1000 ≤ span.nanoseconds then span.inUnit 3 "µs"
  else span.inUnit 0 "ns"

end Span

end PluginHost
