import PluginHost.Pattern.Reader
import PluginHost.Schema.Basic
import PluginHost.Schema.Equality

/-!
# Validation

The violations of a schema by a value come in the order of the constraints, and for each
constraint in the order of the value's parts.  What a constraint says about a value is said
in terms of a reading of its subschemas; the readings are built up in levels, of which a
value needs as many as its depth and the schema's size ask for.
-/

namespace PluginHost

/-- What subschemas say about values. -/
structure SchemaReading where
  violations : Schema → List String → Json → List SchemaViolation
  /-- The properties of an object that a schema looks at. -/
  properties : Schema → Json → List String
  /-- The positions of an array that a schema looks at. -/
  items : Schema → Json → List Nat

namespace SchemaReading

/-- The reading that finds no fault. -/
def silent : SchemaReading :=
  ⟨fun _ _ _ => [], fun _ _ => [], fun _ _ => []⟩

/-- Whether a value meets a schema. -/
def admits (reading : SchemaReading) (schema : Schema) (value : Json) : Bool :=
  (reading.violations schema [] value).isEmpty

/-- How many of the schemas a value meets. -/
def admitCount (reading : SchemaReading) (schemas : List Schema) (value : Json) : Nat :=
  schemas.countP fun schema => reading.admits schema value

end SchemaReading

/-- The fields of an object, none for other values. -/
def Json.fieldsOf : Json → JsonFields
  | .object fields => fields
  | _ => []

/-- The items of an array with their positions, none for other values. -/
def Json.itemsOf : Json → List (Nat × Json)
  | .array items => (List.range items.length).zip items
  | _ => []

/-- Whether a number is a multiple of another: whole numbers by the exact remainder, others by
a rounded quotient next to a whole number. -/
def isMultipleOf (divisor value : JsonNumber) : Bool :=
  let divisor := divisor.toDouble
  let value := value.toDouble
  let tolerance : Int := Int.pow 2 1022
  if divisor.isIntegral then
    value.isIntegral && Int.tmod value.steps divisor.steps == 0
  else
    match value.div? divisor with
    | none => false
    | some quotient =>
      let rest := Int.tmod quotient.steps stepsPerUnit
      rest < tolerance || (stepsPerUnit : Int) - tolerance < rest

/-- Whether a value is the constant that is asked for; numbers may differ by less than the
spacing of the doubles above one. -/
def isConstant (expected value : Json) : Bool :=
  match expected, value with
  | .number expected, .number value =>
    (expected.toDouble.steps - value.toDouble.steps).natAbs < Nat.pow 2 1022
  | expected, value => expected.equivalent value

namespace SchemaConstraint

/-- The violation of a constraint by the value at a place, if it is one. -/
def fault? (holds : Bool) (path : List String) (fault : SchemaFault) : List SchemaViolation :=
  if holds then [] else [⟨path, fault⟩]

/-- The violations of the patterns' schemas by a property, and whether a pattern matches. -/
def patternViolations (reading : SchemaReading) (patterns : List (WrittenPattern × Schema))
    (path : List String) (field : String × Json) : Bool × List SchemaViolation :=
  let matching := patterns.filter fun entry => entry.1.pattern.occursIn field.1
  (!matching.isEmpty,
    matching.flatMap fun entry => reading.violations entry.2 (path ++ [field.1]) field.2)

/-- The violations by a property under declared and pattern schemas, and whether there is a
schema for it. -/
def knownViolations (reading : SchemaReading) (declared : List (String × Schema))
    (patterns : List (WrittenPattern × Schema)) (path : List String) (field : String × Json) :
    Bool × List SchemaViolation :=
  let (matched, found) := patternViolations reading patterns path field
  match declared.lookup field.1 with
  | some schema => (true, reading.violations schema (path ++ [field.1]) field.2 ++ found)
  | none => (matched, found)

/-- The position of an item as a step of a path. -/
def positionStep (position : Nat) : String :=
  toString position

/-- The properties of an object that a constraint looks at. -/
def propertiesSeen (reading : SchemaReading) (value : Json) :
    SchemaConstraint → List String
  | properties declared =>
    (value.fieldsOf.keys).filter fun name => (declared.lookup name).isSome
  | patternProperties patterns =>
    (value.fieldsOf.keys).filter fun name =>
      patterns.any fun entry => entry.1.pattern.occursIn name
  | everyProperty _ _ _ => value.fieldsOf.keys
  | closedProperties _ _ => value.fieldsOf.keys
  | noProperties => value.fieldsOf.keys
  | unevaluatedProperties _ => value.fieldsOf.keys
  | dependent schemas =>
    (schemas.filter fun entry => (value.get? entry.1).isSome).flatMap fun entry =>
      reading.properties entry.2 value
  | allOf schemas => schemas.flatMap fun schema => reading.properties schema value
  | anyOf schemas =>
    (schemas.filter fun schema => reading.admits schema value).flatMap fun schema =>
      reading.properties schema value
  | oneOf schemas =>
    (schemas.filter fun schema => reading.admits schema value).flatMap fun schema =>
      reading.properties schema value
  | conditional condition whenMet whenNot =>
    if reading.admits condition value then
      reading.properties condition value ++ reading.properties whenMet value
    else
      reading.properties whenNot value
  | reference name => reading.properties (.constraints [.reference name]) value
  | _ => []

/-- The positions of an array that a constraint looks at. -/
def itemsSeen (reading : SchemaReading) (value : Json) : SchemaConstraint → List Nat
  | firstItems schemas => (value.itemsOf.map Prod.fst).take schemas.length
  | laterItems _ _ => value.itemsOf.map Prod.fst
  | noLaterItems _ => value.itemsOf.map Prod.fst
  | unevaluatedItems _ => value.itemsOf.map Prod.fst
  | contains schema _ _ =>
    (value.itemsOf.filter fun item => reading.admits schema item.2).map Prod.fst
  | allOf schemas => schemas.flatMap fun schema => reading.items schema value
  | anyOf schemas =>
    (schemas.filter fun schema => reading.admits schema value).flatMap fun schema =>
      reading.items schema value
  | oneOf schemas =>
    (schemas.filter fun schema => reading.admits schema value).flatMap fun schema =>
      reading.items schema value
  | conditional condition whenMet whenNot =>
    if reading.admits condition value then
      reading.items condition value ++ reading.items whenMet value
    else
      reading.items whenNot value
  | reference name => reading.items (.constraints [.reference name]) value
  | _ => []

/-- The violations of a constraint, which stands among its siblings, by the value at a
place. -/
def violations (reading : SchemaReading) (siblings : List SchemaConstraint)
    (path : List String) (value : Json) : SchemaConstraint → List SchemaViolation
  | type types =>
    fault? (types.any fun type => type.admits value) path (.wrongType value types)
  | listed options => fault? (options.any value.equivalent) path (.notListed value options)
  | constant expected => fault? (isConstant expected value) path (.notConstant expected)
  | bound side limit =>
    match value with
    | .number found => fault? (side.admits limit found) path (.outOfBound value side limit)
    | _ => []
  | multipleOf divisor =>
    match value with
    | .number found => fault? (isMultipleOf divisor found) path (.notMultiple value divisor)
    | _ => []
  | count measure isUpper limit =>
    match measure.of? value with
    | some found =>
      fault? (if isUpper then found ≤ limit else limit ≤ found) path
        (.wrongCount value measure isUpper limit)
    | none => []
  | pattern written =>
    match value with
    | .string text =>
      fault? (written.pattern.occursIn text) path (.noMatch value written.source)
    | _ => []
  | regex =>
    match value with
    | .string text => fault? (Pattern.parse? text).isSome path (.wrongFormat value "regex")
    | _ => []
  | uniqueItems =>
    match value with
    | .array items => fault? (Json.allDistinct items) path (.repeatedItems value)
    | _ => []
  | required names =>
    match value with
    | .object fields =>
      names.flatMap fun name => fault? (KeyedList.contains name fields) path (.missing name)
    | _ => []
  | properties declared =>
    declared.flatMap fun (name, schema) =>
      match value.get? name with
      | some found => reading.violations schema (path ++ [name]) found
      | none => []
  | patternProperties patterns =>
    patterns.flatMap fun entry =>
      value.fieldsOf.flatMap fun (name, found) =>
        if entry.1.pattern.occursIn name then reading.violations entry.2 (path ++ [name]) found
        else []
  | everyProperty declared patterns rest =>
    value.fieldsOf.flatMap fun field =>
      match knownViolations reading declared patterns path field with
      | (true, found) => found
      | (false, _) => reading.violations rest (path ++ [field.1]) field.2
  | closedProperties declared patterns =>
    let known := value.fieldsOf.map fun field =>
      (field.1, knownViolations reading declared patterns path field)
    let unexpected := (known.filter fun entry => !entry.2.1).map Prod.fst
    known.flatMap (fun entry => entry.2.2) ++
      fault? unexpected.isEmpty path (.unexpectedProperties unexpected)
  | noProperties =>
    match value.fieldsOf with
    | [] => []
    | (_, first) :: _ => [⟨path, .nothingAllowed first⟩]
  | propertyNames schema =>
    value.fieldsOf.flatMap fun field => reading.violations schema path (.string field.1)
  | dependent schemas =>
    schemas.flatMap fun (name, schema) =>
      if (value.get? name).isSome then reading.violations schema path value else []
  | firstItems schemas =>
    (value.itemsOf.zip schemas).flatMap fun ((position, item), schema) =>
      reading.violations schema (path ++ [positionStep position]) item
  | laterItems skipped schema =>
    (value.itemsOf.drop skipped).flatMap fun (position, item) =>
      reading.violations schema (path ++ [positionStep position]) item
  | noLaterItems skipped =>
    let later := (value.itemsOf.drop skipped).map Prod.snd
    fault? later.isEmpty path (.unexpectedItems later)
  | contains schema least most =>
    match value with
    | .array items =>
      let found := items.countP fun item => reading.admits schema item
      fault? (least ≤ found && most.all fun most => found ≤ most) path (.nothingContained value)
    | _ => []
  | allOf schemas => schemas.flatMap fun schema => reading.violations schema path value
  | anyOf schemas =>
    fault? (reading.admitCount schemas value != 0) path (.noAlternative value "anyOf")
  | oneOf schemas =>
    match reading.admitCount schemas value with
    | 0 => [⟨path, .noAlternative value "oneOf"⟩]
    | 1 => []
    | _ => [⟨path, .severalAlternatives value⟩]
  | notSchema source schema =>
    fault? (!reading.admits schema value) path (.forbidden value source)
  | conditional condition whenMet whenNot =>
    if reading.admits condition value then reading.violations whenMet path value
    else reading.violations whenNot path value
  | reference name => reading.violations (.constraints [.reference name]) path value
  | unevaluatedProperties schema =>
    let seen := (siblings.filter fun sibling =>
      match sibling with
      | unevaluatedProperties _ => false
      | _ => true).flatMap (propertiesSeen reading value)
    let refused := value.fieldsOf.filter fun field =>
      !seen.contains field.1 && !reading.admits schema field.2
    fault? refused.isEmpty path (.unevaluatedProperties (refused.map Prod.fst))
  | unevaluatedItems schema =>
    let seen := (siblings.filter fun sibling =>
      match sibling with
      | unevaluatedItems _ => false
      | _ => true).flatMap (itemsSeen reading value)
    let refused := value.itemsOf.filter fun item =>
      !seen.contains item.1 && !reading.admits schema item.2
    fault? refused.isEmpty path (.unevaluatedItems (refused.map Prod.snd))

end SchemaConstraint

/-- Schemas that others refer to, by name. -/
abbrev SchemaDefinitions := List (String × Schema)

namespace SchemaReading

/-- The constraints of a schema, that of a lone reference being those of what it refers to. -/
def resolved (definitions : SchemaDefinitions) (schema : Schema) : Schema :=
  match schema with
  | .constraints [.reference name] => (definitions.lookup name).getD .anything
  | schema => schema

/-- The reading one level above another one. -/
def next (definitions : SchemaDefinitions) (inner : SchemaReading) : SchemaReading where
  violations schema path value :=
    match resolved definitions schema with
    | .anything => []
    | .nothing => [⟨path, .nothingAllowed value⟩]
    | .constraints list => list.flatMap (SchemaConstraint.violations inner list path value)
  properties schema value :=
    match resolved definitions schema with
    | .constraints list => list.flatMap (SchemaConstraint.propertiesSeen inner value)
    | _ => []
  items schema value :=
    match resolved definitions schema with
    | .constraints list => list.flatMap (SchemaConstraint.itemsSeen inner value)
    | _ => []

/-- The reading after a number of levels. -/
def level (definitions : SchemaDefinitions) : Nat → SchemaReading
  | 0 => silent
  | count + 1 => next definitions (level definitions count)

end SchemaReading

end PluginHost
