import PluginHost.Pattern.Basic
import PluginHost.Schema.Fault

/-!
# Schemas

A schema admits everything, nothing, or what meets a list of constraints.  A constraint may
refer to a schema that is kept elsewhere under a name, so that schemas can describe values of
any depth.
-/

namespace PluginHost

/-- A pattern and the text that spells it. -/
structure WrittenPattern where
  source : String
  pattern : Pattern

mutual

/-- What a schema asks of a value. -/
inductive Schema where
  | anything
  | nothing
  | constraints (list : List SchemaConstraint)

/-- One requirement on a value; it concerns values of some types and lets others pass. -/
inductive SchemaConstraint where
  | type (types : List SchemaType)
  | listed (options : List Json)
  | constant (expected : Json)
  | bound (side : NumberBound) (limit : JsonNumber)
  | multipleOf (divisor : JsonNumber)
  | count (measure : Measure) (isUpper : Bool) (limit : Nat)
  | pattern (written : WrittenPattern)
  | regex
  | uniqueItems
  | required (names : List String)
  /-- Schemas of single properties. -/
  | properties (declared : List (String × Schema))
  /-- Schemas of the properties whose names match a pattern. -/
  | patternProperties (patterns : List (WrittenPattern × Schema))
  /-- Schemas of declared properties, of those whose names match a pattern, and of the rest. -/
  | everyProperty (declared : List (String × Schema)) (patterns : List (WrittenPattern × Schema))
      (rest : Schema)
  /-- As `everyProperty`, where the rest is refused. -/
  | closedProperties (declared : List (String × Schema))
      (patterns : List (WrittenPattern × Schema))
  /-- No properties at all. -/
  | noProperties
  | propertyNames (schema : Schema)
  /-- Schemas of the whole object where it has certain properties. -/
  | dependent (schemas : List (String × Schema))
  /-- Schemas of the first items, by position. -/
  | firstItems (schemas : List Schema)
  /-- The schema of the items after the first ones. -/
  | laterItems (skipped : Nat) (schema : Schema)
  /-- No items after the first ones. -/
  | noLaterItems (skipped : Nat)
  /-- The least and the greatest number of items that meet a schema. -/
  | contains (schema : Schema) (least : Nat) (most : Option Nat)
  | allOf (schemas : List Schema)
  | anyOf (schemas : List Schema)
  | oneOf (schemas : List Schema)
  | notSchema (source : Json) (schema : Schema)
  | conditional (condition whenMet whenNot : Schema)
  | reference (name : String)
  /-- The schema of the properties that no other constraint looks at. -/
  | unevaluatedProperties (schema : Schema)
  /-- The schema of the items that no other constraint looks at. -/
  | unevaluatedItems (schema : Schema)

end

end PluginHost
