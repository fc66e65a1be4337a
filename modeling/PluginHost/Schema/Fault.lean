import PluginHost.Decimal.Layout
import PluginHost.Json.Printer
import PluginHost.Json.Pointer
import PluginHost.Text.Quoted

/-!
# Faults that schemas find

A fault is what is wrong with a value under a schema, or with a schema itself.  Faults of
values come with the place of the value in the document.
-/

namespace PluginHost

open Text

/-- The types that schemas tell apart. -/
inductive SchemaType where
  | array
  | boolean
  | integer
  | null
  | number
  | object
  | string
deriving DecidableEq

namespace SchemaType

/-- All types, in the order in which they are listed. -/
def all : List SchemaType :=
  [array, boolean, integer, null, number, object, string]

/-- The name of a type. -/
def name : SchemaType → String
  | array => "array"
  | boolean => "boolean"
  | integer => "integer"
  | null => "null"
  | number => "number"
  | object => "object"
  | string => "string"

/-- The type of a name. -/
def ofName? (name : String) : Option SchemaType :=
  all.find? fun type => type.name == name

/-- Whether a number is an integer, written with a fraction or without. -/
def isInteger : JsonNumber → Bool
  | .integer _ _ => true
  | .double value => value.isIntegral

/-- Whether a value is of a type. -/
def admits : SchemaType → Json → Bool
  | array, .array _ => true
  | boolean, .bool _ => true
  | integer, .number value => isInteger value
  | null, .null => true
  | number, .number _ => true
  | object, .object _ => true
  | string, .string _ => true
  | _, _ => false

end SchemaType

/-- A bound on numbers. -/
inductive NumberBound where
  | minimum
  | exclusiveMinimum
  | maximum
  | exclusiveMaximum
deriving DecidableEq

namespace NumberBound

/-- Whether a number keeps within a limit. -/
def admits (bound : NumberBound) (limit value : JsonNumber) : Bool :=
  match bound with
  | minimum => limit.steps ≤ value.steps
  | exclusiveMinimum => limit.steps < value.steps
  | maximum => value.steps ≤ limit.steps
  | exclusiveMaximum => value.steps < limit.steps

/-- How a broken bound is told. -/
def breach : NumberBound → String
  | minimum => "less than the minimum of"
  | exclusiveMinimum => "less than or equal to the minimum of"
  | maximum => "greater than the maximum of"
  | exclusiveMaximum => "greater than or equal to the maximum of"

end NumberBound

/-- What is counted in a value. -/
inductive Measure where
  | characters
  | items
  | properties
deriving DecidableEq

namespace Measure

/-- The count of a value, if it is of the kind that is counted. -/
def of? : Measure → Json → Option Nat
  | characters, .string text => some text.length
  | items, .array list => some list.length
  | properties, .object fields => some fields.length
  | _, _ => none

/-- How a count beyond a limit is told. -/
def breach (measure : Measure) (isUpper : Bool) (limit : Nat) : String :=
  match measure with
  | characters =>
    (if isUpper then "is longer than " else "is shorter than ") ++ toString limit ++
      (if limit == 1 then " character" else " characters")
  | items =>
    (if isUpper then "has more than " else "has less than ") ++ toString limit ++
      (if limit == 1 then " item" else " items")
  | properties =>
    (if isUpper then "has more than " else "has less than ") ++ toString limit ++
      (if limit == 1 then " property" else " properties")

end Measure

/-- What is wrong with a value, or with a schema. -/
inductive SchemaFault where
  | wrongType (value : Json) (types : List SchemaType)
  | notListed (value : Json) (options : List Json)
  | notConstant (expected : Json)
  | outOfBound (value : Json) (bound : NumberBound) (limit : JsonNumber)
  | notMultiple (value : Json) (divisor : JsonNumber)
  | wrongCount (value : Json) (measure : Measure) (isUpper : Bool) (limit : Nat)
  | noMatch (value : Json) (pattern : String)
  | repeatedItems (value : Json)
  | nothingContained (value : Json)
  | missing (name : String)
  | nothingAllowed (value : Json)
  | unexpectedProperties (names : List String)
  | unexpectedItems (items : List Json)
  | unevaluatedProperties (names : List String)
  | unevaluatedItems (items : List Json)
  | forbidden (value : Json) (schema : Json)
  | noAlternative (value : Json) (keyword : String)
  | severalAlternatives (value : Json)
  | wrongFormat (value : Json) (format : String)
  | unknownDialect (name : String)
  | danglingPointer (pointer : String)
  | invalidAnchor (anchor : String)
  | unknownAnchor (anchor : String)
  | unknownResource (uri scheme : String)

namespace SchemaFault

/-- A list of things that were not expected. -/
def unexpectedList (things : List String) : String :=
  ", ".intercalate (things.map fun thing => s!"'{thing}'") ++
    (if things.length == 1 then " was unexpected" else " were unexpected")

/-- The wording of a fault. -/
def message : SchemaFault → String
  | wrongType value [type] => s!"{value.compact} is not of type {quoted type.name}"
  | wrongType value types =>
    s!"{value.compact} is not of types " ++
      ", ".intercalate (types.map fun type => quoted type.name)
  | notListed value options =>
    s!"{value.compact} is not one of {(Json.array options).compact}"
  | notConstant expected => s!"{expected.compact} was expected"
  | outOfBound value bound limit =>
    s!"{value.compact} is {bound.breach} {(Json.number limit).compact}"
  | notMultiple value divisor =>
    s!"{value.compact} is not a multiple of {DecimalLayout.plain.write divisor.toDouble}"
  | wrongCount value measure isUpper limit =>
    s!"{value.compact} {measure.breach isUpper limit}"
  | noMatch value pattern => s!"{value.compact} does not match \"" ++ pattern ++ "\""
  | repeatedItems value => s!"{value.compact} has non-unique elements"
  | nothingContained value => s!"None of {value.compact} are valid under the given schema"
  | missing name => s!"{(Json.string name).compact} is a required property"
  | nothingAllowed value => s!"False schema does not allow {value.compact}"
  | unexpectedProperties names =>
    s!"Additional properties are not allowed ({unexpectedList names})"
  | unexpectedItems items =>
    "Additional items are not allowed (" ++ ", ".intercalate (items.map Json.compact) ++
      (if items.length == 1 then " was unexpected)" else " were unexpected)")
  | unevaluatedProperties names =>
    s!"Unevaluated properties are not allowed ({unexpectedList names})"
  | unevaluatedItems items =>
    s!"Unevaluated items are not allowed ({unexpectedList (items.map Json.compact)})"
  | forbidden value schema => s!"{schema.compact} is not allowed for {value.compact}"
  | noAlternative value keyword =>
    s!"{value.compact} is not valid under any of the schemas listed in the '{keyword}' keyword"
  | severalAlternatives value =>
    s!"{value.compact} is valid under more than one of the schemas listed in the 'oneOf' keyword"
  | wrongFormat value format => s!"{value.compact} is not a {quoted format}"
  | unknownDialect name => s!"Unknown specification: {name}"
  | danglingPointer pointer => s!"Pointer '{pointer}' does not exist"
  | invalidAnchor anchor => s!"Anchor '{anchor}' is invalid"
  | unknownAnchor anchor => s!"Anchor '{anchor}' does not exist"
  | unknownResource uri scheme =>
    s!"Resource '{uri}' is not present in a registry and retrieving it failed: " ++
      s!"Unknown scheme {scheme}"

end SchemaFault

/-- A fault of the value at a place in a document. -/
structure SchemaViolation where
  /-- The keys and positions that lead to the value, outermost first. -/
  path : List String
  fault : SchemaFault

/-- The wording of a violation, after the pointer to its place unless that is the root. -/
def SchemaViolation.message (violation : SchemaViolation) : String :=
  if violation.path.isEmpty then
    violation.fault.message
  else
    String.join (violation.path.map fun step => "/" ++ JsonPointer.escape step) ++ ": " ++
      violation.fault.message

end PluginHost
