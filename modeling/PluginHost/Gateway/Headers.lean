import PluginHost.Decimal.Integer
import PluginHost.Text.Blank

/-!
# Header fields

Header fields keep the order in which they came.  Names are compared without regard to case,
and of several fields of one name a reader takes the first.
-/

namespace PluginHost

open Text

/-- The fields of a head: names with their values, in order. -/
abbrev HeaderFields := List (String × String)

/-- Whether a header value holds nothing but visible characters, spaces and tabs. -/
def isPlainHeaderValue (value : String) : Bool :=
  value.toList.all fun c => c == '\t' || (' ' ≤ c && c ≤ '~')

/-- Whether a text may be sent as a header value: control characters other than the tab may
not. -/
def isSendableHeaderValue (value : String) : Bool :=
  value.toList.all fun c => c == '\t' || (' ' ≤ c && c != '\x7f')

namespace HeaderFields

/-- The values of a name, in order. -/
def values (name : String) (fields : HeaderFields) : List String :=
  (fields.filter fun field => field.1.toLower == name).map Prod.snd

/-- The first value of a name. -/
def first? (name : String) (fields : HeaderFields) : Option String :=
  (fields.values name).head?

/-- The length of the body that the head declares, if it declares one that can be read. -/
def declaredLength? (fields : HeaderFields) : Option Nat :=
  match fields.first? "content-length" with
  | none => none
  | some value =>
    if isPlainHeaderValue value then
      match IntegerRange.unsigned64.parse (trimList value.toList) with
      | .ok length => some length.toNat
      | .error _ => none
    else none

end HeaderFields

end PluginHost
