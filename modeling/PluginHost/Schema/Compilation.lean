import PluginHost.Schema.Dialect
import PluginHost.Schema.Reference

/-!
# Compiling schemas

A schema is given as a value.  It compiles if it is a schema at all and all of its references
lead to schemas.  The constraints of a schema stand in the order of its keywords; keywords
that are not known are passed over.  What is referred to is compiled once and kept under the
name of its place.
-/

namespace PluginHost

/-- A schema ready for use. -/
structure CompiledSchema where
  root : Schema
  definitions : SchemaDefinitions
  /-- The number of values in the schema's document. -/
  size : Nat

namespace SchemaCompilation

/-- Where compilation stands: the documents that can be referred to. -/
structure Setting where
  dialect : SchemaDialect
  resources : List SchemaResource

/-- A step of compilation keeps the schemas that have been referred to, finished or not. -/
abbrev Compiling (α : Type) := StateT SchemaDefinitions (Except SchemaFault) α

/-- The list with the value under a name put in or replaced. -/
def keep (name : String) (schema : Schema) : SchemaDefinitions → SchemaDefinitions
  | [] => [(name, schema)]
  | (found, old) :: rest =>
    if found == name then (name, schema) :: rest else (found, old) :: keep name schema rest

/-- The texts in a value that is a list. -/
def texts (value : Json) : List String :=
  ((value.asArray?).getD []).filterMap Json.asString?

/-- The limit that a number stands for. -/
def limit? : Json → Option Nat
  | .number (.integer value _) => some value.toNat
  | .number (.double value) =>
    if value.isIntegral then some (min value.truncate.toNat (Nat.pow 2 64 - 1)) else none
  | _ => none

/-- The types that a value names. -/
def types? : Json → Option (List SchemaType)
  | .string name => (SchemaType.ofName? name).map fun type => [type]
  | .array names =>
    (names.mapM fun name => (Json.asString? name).bind SchemaType.ofName?).map fun types =>
      SchemaType.all.filter types.contains
  | _ => none

/-- Constraints that need no other schema. -/
def simple? (dialect : SchemaDialect) (keyword : String) (value : Json) :
    Option SchemaConstraint :=
  let number (of : JsonNumber → SchemaConstraint) : Option SchemaConstraint :=
    match value with
    | .number limit => some (of limit)
    | _ => none
  let count (measure : Measure) (isUpper : Bool) : Option SchemaConstraint :=
    (limit? value).map (.count measure isUpper)
  match keyword with
  | "const" => some (.constant value)
  | "enum" => value.asArray?.map .listed
  | "type" => (types? value).map .type
  | "minimum" => number (.bound .minimum)
  | "exclusiveMinimum" => number (.bound .exclusiveMinimum)
  | "maximum" => number (.bound .maximum)
  | "exclusiveMaximum" => number (.bound .exclusiveMaximum)
  | "multipleOf" => number .multipleOf
  | "minLength" => count .characters false
  | "maxLength" => count .characters true
  | "minItems" => count .items false
  | "maxItems" => count .items true
  | "minProperties" => count .properties false
  | "maxProperties" => count .properties true
  | "required" => value.asArray?.map fun _ => .required (texts value)
  | "uniqueItems" => if value.asBool? == some true then some .uniqueItems else none
  | "dependentRequired" =>
    if dialect == .older then none
    else value.asObject?.map fun fields =>
      .dependent (fields.map fun field =>
        (field.1, .constraints [.required (texts field.2)]))
  | _ => none

/-- The pattern that a text spells, for the value it was asked for. -/
def pattern (value : Json) (source : String) : Except SchemaFault WrittenPattern :=
  match Pattern.parse? source with
  | some pattern => .ok ⟨source, pattern⟩
  | none => .error (.wrongFormat value "regex")

section Keywords

variable (compile : Json → Compiling Schema)

/-- The schemas of a list. -/
def schemas (value : Json) : Compiling (List Schema) :=
  ((value.asArray?).getD []).mapM compile

/-- The schemas of an object's fields. -/
def namedSchemas (value : Json) : Compiling (List (String × Schema)) :=
  ((value.asObject?).getD []).mapM fun field => do
    pure (field.1, ← compile field.2)

/-- The schemas of an object's fields whose keys are patterns. -/
def patternSchemas (value : Json) : Compiling (List (WrittenPattern × Schema)) :=
  ((value.asObject?).getD []).mapM fun field => do
    let written ← (pattern field.2 field.1 : Except SchemaFault WrittenPattern)
    pure (written, ← compile field.2)

/-- What an object's presence of properties asks for. -/
def dependents (value : Json) : Compiling (List (String × Schema)) :=
  ((value.asObject?).getD []).mapM fun field =>
    match field.2 with
    | .array _ => pure (field.1, .constraints [.required (texts field.2)])
    | schema => do pure (field.1, ← compile schema)

/-- Whether additional properties are constrained, so that the constraint on them takes in the
declared ones. -/
def takesInProperties (siblings : JsonFields) : Bool :=
  match KeyedList.get? "additionalProperties" siblings with
  | some (.bool false) => true
  | some (.object _) => true
  | _ => false

/-- The constraint on additional properties. -/
def additionalProperties (siblings : JsonFields) (value : Json) :
    Compiling (Option SchemaConstraint) := do
  let declared := KeyedList.get? "properties" siblings
  let patterns := KeyedList.get? "patternProperties" siblings
  match value with
  | .bool true => pure (some (.everyProperty [] [] .anything))
  | .bool false =>
    if declared.isNone && patterns.isNone then
      pure (some .noProperties)
    else
      let patterns ← patternSchemas compile (patterns.getD .null)
      pure (some (.closedProperties (← namedSchemas compile (declared.getD .null)) patterns))
  | schema =>
    let patterns ← patternSchemas compile (patterns.getD .null)
    let declared ← namedSchemas compile (declared.getD .null)
    pure (some (.everyProperty declared patterns (← compile schema)))

/-- The constraint on items, which in the current dialect concerns those after the first
ones and in the older one may be a list. -/
def items (dialect : SchemaDialect) (siblings : JsonFields) (value : Json) :
    Compiling SchemaConstraint :=
  match dialect, value with
  | .older, .array list => do pure (.firstItems (← list.mapM compile))
  | .older, schema => do pure (.laterItems 0 (← compile schema))
  | .current, schema => do
    let first := ((KeyedList.get? "prefixItems" siblings).bind Json.asArray?).getD []
    pure (.laterItems first.length (← compile schema))

/-- The constraint of the older dialect on the items after the first ones. -/
def additionalItems? (siblings : JsonFields) (value : Json) :
    Compiling (Option SchemaConstraint) :=
  match (KeyedList.get? "items" siblings), value with
  | some (.array first), .bool false => pure (some (.noLaterItems first.length))
  | some (.array first), schema => do
    pure (some (.laterItems first.length (← compile schema)))
  | _, _ => pure none

/-- The constraint that some items meet a schema. -/
def contains (dialect : SchemaDialect) (siblings : JsonFields) (value : Json) :
    Compiling SchemaConstraint := do
  let limit (keyword : String) : Option Nat :=
    if dialect == .older then none else (KeyedList.get? keyword siblings).bind limit?
  let least := match limit "minContains", limit "maxContains" with
    | some least, _ => least
    | none, _ => 1
  pure (.contains (← compile value) least (limit "maxContains"))

/-- The constraint that depends on a condition, if anything does. -/
def conditional? (siblings : JsonFields) (value : Json) :
    Compiling (Option SchemaConstraint) := do
  let whenMet := KeyedList.get? "then" siblings
  let whenNot := KeyedList.get? "else" siblings
  if whenMet.isNone && whenNot.isNone then
    pure none
  else
    let condition ← compile value
    let whenMet ← compile (whenMet.getD (.bool true))
    pure (some (.conditional condition whenMet (← compile (whenNot.getD (.bool true)))))

/-- The constraint of a keyword that involves other schemas. -/
def involved? (dialect : SchemaDialect) (siblings : JsonFields) (keyword : String)
    (value : Json) : Compiling (Option SchemaConstraint) :=
  let isCurrent := dialect == .current
  match keyword with
  | "properties" =>
    if takesInProperties siblings then pure none
    else do pure (some (.properties (← namedSchemas compile value)))
  | "patternProperties" =>
    if takesInProperties siblings then pure none
    else do pure (some (.patternProperties (← patternSchemas compile value)))
  | "additionalProperties" => additionalProperties compile siblings value
  | "propertyNames" => do pure (some (.propertyNames (← compile value)))
  | "dependencies" => do pure (some (.dependent (← dependents compile value)))
  | "dependentSchemas" =>
    if isCurrent then do pure (some (.dependent (← namedSchemas compile value)))
    else pure none
  | "items" => do pure (some (← items compile dialect siblings value))
  | "prefixItems" =>
    if isCurrent then do pure (some (.firstItems (← schemas compile value))) else pure none
  | "additionalItems" =>
    if isCurrent then pure none else additionalItems? compile siblings value
  | "contains" => do pure (some (← contains compile dialect siblings value))
  | "allOf" => do pure (some (.allOf (← schemas compile value)))
  | "anyOf" => do pure (some (.anyOf (← schemas compile value)))
  | "oneOf" => do pure (some (.oneOf (← schemas compile value)))
  | "not" => do pure (some (.notSchema value (← compile value)))
  | "if" => conditional? compile siblings value
  | "unevaluatedProperties" =>
    if isCurrent then do pure (some (.unevaluatedProperties (← compile value))) else pure none
  | "unevaluatedItems" =>
    if isCurrent then do pure (some (.unevaluatedItems (← compile value))) else pure none
  | _ => pure none

end Keywords

/-- The place that a reference leads to: its name, the identifier that holds around it and the
schema there. -/
def target (setting : Setting) (base reference : String) :
    Except SchemaFault (String × String × Json) :=
  let (identifier, fragment) := SchemaReference.splitFragment reference
  let identifier := SchemaReference.resolve base identifier
  match setting.resources.find? fun resource => resource.identifier == identifier with
  | some resource =>
    (SchemaReference.find resource fragment).map fun (base, schema) =>
      (identifier ++ "#" ++ fragment, base, schema)
  | none =>
    .error (.unknownResource identifier
      (String.ofList ((SchemaReference.scheme? identifier.toList).getD [])))

/-- Compiles the schema that a value is, inside a given identifier. -/
def schema (setting : Setting) : Nat → String → Json → Compiling Schema
  | 0, _, _ => pure .anything
  | _ + 1, _, .bool true => pure .anything
  | _ + 1, _, .bool false => pure .nothing
  | fuel + 1, base, .object fields =>
    let base := SchemaReference.baseWithin base (.object fields)
    let refer (reference : String) : Compiling (Option SchemaConstraint) := do
      if (SchemaDialect.ofIdentifier? (SchemaDialect.withoutMarks reference)).isSome then
        pure (some (.reference SchemaDialect.selfName))
      else
        let (name, base, content) ←
          (target setting base reference : Except SchemaFault (String × String × Json))
        if !((← get).any fun entry => entry.1 == name) then
          modify (keep name .anything)
          let compiled ← schema setting fuel base content
          modify (keep name compiled)
        pure (some (.reference name))
    let constraint? (field : String × Json) : Compiling (Option SchemaConstraint) :=
      match field.1, field.2 with
      | "$ref", .string reference => refer reference
      | "$dynamicRef", .string reference =>
        if setting.dialect == .current then refer reference else pure none
      | "pattern", .string source => do
        let written ← (pattern field.2 source : Except SchemaFault WrittenPattern)
        pure (some (.pattern written))
      | keyword, value =>
        match simple? setting.dialect keyword value with
        | some constraint => pure (some constraint)
        | none =>
          involved? (schema setting fuel base) setting.dialect fields keyword value
    let considered := if setting.dialect == .older && KeyedList.contains "$ref" fields then
        fields.filter fun field => field.1 == "$ref"
      else fields
    do pure (.constraints ((← considered.mapM constraint?).filterMap id))
  | _ + 1, _, value => throw (.wrongType value [.boolean, .object])

end SchemaCompilation

namespace CompiledSchema

/-- Compiles a schema, or tells the first thing that is wrong with it. -/
def ofJson (source : Json) : Except SchemaFault CompiledSchema :=
  match SchemaDialect.of source with
  | .error fault => .error fault
  | .ok dialect =>
    match dialect.firstFault? source with
    | some fault => .error fault
    | none =>
      let base := SchemaReference.baseWithin SchemaReference.defaultIdentifier source
      let setting : SchemaCompilation.Setting :=
        ⟨dialect, ⟨base, source⟩ :: SchemaReference.resources base source⟩
      match (SchemaCompilation.schema setting (source.count * source.count + 2) base source).run
          [(SchemaDialect.selfName, dialect.metaSchema)] with
      | .error fault => .error fault
      | .ok (root, definitions) => .ok ⟨root, definitions, source.count⟩

/-- The number of levels that suffice for a value. -/
def levels (schema : CompiledSchema) (value : Json) : Nat :=
  (value.depth + 1) * (2 * schema.size + 2) + 64

/-- The violations of a schema by a value. -/
def violations (schema : CompiledSchema) (value : Json) : List SchemaViolation :=
  (SchemaReading.level schema.definitions (schema.levels value)).violations schema.root [] value

end CompiledSchema

end PluginHost
