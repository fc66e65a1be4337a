import PluginHost.Schema.Validation

/-!
# The schema of schemas

Which keywords a schema may have, and what may stand under them, is itself told by a schema.
There are two dialects: the current one, whose keywords come in vocabularies that are checked
one after the other, and the older one with a single list of keywords.
-/

namespace PluginHost

/-- A dialect of schemas. -/
inductive SchemaDialect where
  | current
  | older
deriving DecidableEq

namespace SchemaDialect

/-- The name under which the schema of schemas refers to itself. -/
def selfName : String :=
  "schema of schemas"

/-- Any schema. -/
def anySchema : Schema :=
  .constraints [.reference selfName]

/-- A value of one type. -/
def typed (type : SchemaType) : Schema :=
  .constraints [.type [type]]

/-- A text. -/
def text : Schema :=
  typed .string

/-- The pattern that a text spells. -/
def written (source : String) : WrittenPattern :=
  ⟨source, (Pattern.parse? source).getD .empty⟩

/-- An array whose items are all of one kind. -/
def arrayOf (item : Schema) (more : List SchemaConstraint) : Schema :=
  .constraints ([.laterItems 0 item] ++ more)

/-- A list of schemas, not empty. -/
def schemaList : Schema :=
  arrayOf anySchema [.count .items false 1, .type [.array]]

/-- A list of texts, each once. -/
def textList : Schema :=
  arrayOf text [.type [.array], .uniqueItems]

/-- An object whose properties are all of one kind. -/
def mapOf (value : Schema) : Schema :=
  .constraints [.everyProperty [] [] value, .type [.object]]

/-- A limit on a number of things. -/
def size : Schema :=
  .constraints [.bound .minimum (JsonNumber.ofInt 0), .type [.integer]]

/-- A number above zero. -/
def positive : Schema :=
  .constraints [.bound .exclusiveMinimum (JsonNumber.ofInt 0), .type [.number]]

/-- The name of a type. -/
def typeName : Schema :=
  .constraints [.listed (SchemaType.all.map fun type => .string type.name)]

/-- The name of a type, or a list of names. -/
def typeNames : Schema :=
  .constraints [.anyOf [typeName,
    arrayOf typeName [.count .items false 1, .type [.array], .uniqueItems]]]

/-- What a property's presence asks for: a schema or other properties. -/
def dependencies : Schema :=
  mapOf (.constraints [.anyOf [anySchema, textList]])

/-- The name of a place in a schema. -/
def anchor : Schema :=
  .constraints [.pattern (written "^[A-Za-z_][-A-Za-z0-9._]*$"), .type [.string]]

/-- The identifier of a schema, without a fragment. -/
def identifier : Schema :=
  .constraints [.type [.string], .pattern (written "^[^#]*#?$")]

/-- A schema with the given keywords. -/
def vocabulary (keywords : List (String × Schema)) : Schema :=
  .constraints [.properties keywords, .type [.boolean, .object]]

/-- Keywords that identify schemas and refer to them. -/
def coreKeywords : List (String × Schema) :=
  [("$anchor", anchor), ("$comment", text), ("$defs", mapOf anySchema),
   ("$dynamicAnchor", anchor), ("$dynamicRef", text), ("$id", identifier), ("$ref", text),
   ("$schema", text),
   ("$vocabulary", .constraints [.everyProperty [] [] (typed .boolean), .propertyNames text,
     .type [.object]])]

/-- Keywords that apply schemas to parts of a value. -/
def applyingKeywords : List (String × Schema) :=
  [("additionalProperties", anySchema), ("allOf", schemaList), ("anyOf", schemaList),
   ("contains", anySchema), ("dependentSchemas", mapOf anySchema), ("else", anySchema),
   ("if", anySchema), ("items", anySchema), ("not", anySchema), ("oneOf", schemaList),
   ("patternProperties", mapOf anySchema), ("prefixItems", schemaList),
   ("properties", mapOf anySchema), ("propertyNames", anySchema), ("then", anySchema)]

/-- Keywords for the parts that no other keyword looks at. -/
def unevaluatedKeywords : List (String × Schema) :=
  [("unevaluatedItems", anySchema), ("unevaluatedProperties", anySchema)]

/-- Keywords that constrain a value as a whole. -/
def constrainingKeywords : List (String × Schema) :=
  [("const", .anything), ("dependentRequired", mapOf textList),
   ("enum", arrayOf .anything [.type [.array]]), ("exclusiveMaximum", typed .number),
   ("exclusiveMinimum", typed .number), ("maxContains", size), ("maxItems", size),
   ("maxLength", size), ("maxProperties", size), ("maximum", typed .number),
   ("minContains", size), ("minItems", size), ("minLength", size), ("minProperties", size),
   ("minimum", typed .number), ("multipleOf", positive), ("pattern", text),
   ("required", textList), ("type", typeNames), ("uniqueItems", typed .boolean)]

/-- Keywords that describe a value. -/
def describingKeywords : List (String × Schema) :=
  [("default", .anything), ("deprecated", typed .boolean), ("description", text),
   ("examples", arrayOf .anything [.type [.array]]), ("readOnly", typed .boolean),
   ("title", text), ("writeOnly", typed .boolean)]

/-- Keywords about the contents of texts. -/
def contentKeywords : List (String × Schema) :=
  [("contentEncoding", text), ("contentMediaType", text), ("contentSchema", anySchema)]

/-- Keywords of earlier dialects that are still checked. -/
def formerKeywords : List (String × Schema) :=
  [("$recursiveAnchor", anchor), ("$recursiveRef", text), ("definitions", mapOf anySchema),
   ("dependencies", dependencies)]

/-- The schema of schemas in the current dialect. -/
def currentSchema : Schema :=
  .constraints
    [.allOf [vocabulary coreKeywords, vocabulary applyingKeywords,
       vocabulary unevaluatedKeywords, vocabulary constrainingKeywords,
       vocabulary describingKeywords, vocabulary [("format", text)],
       vocabulary contentKeywords],
     .properties formerKeywords, .type [.boolean, .object]]

/-- The keywords of the older dialect. -/
def olderKeywords : List (String × Schema) :=
  [("$comment", text), ("$id", text), ("$ref", text), ("$schema", text),
   ("additionalItems", anySchema), ("additionalProperties", anySchema),
   ("allOf", schemaList), ("anyOf", schemaList), ("const", .anything),
   ("contains", anySchema), ("contentEncoding", text), ("contentMediaType", text),
   ("default", .anything), ("definitions", mapOf anySchema), ("dependencies", dependencies),
   ("description", text), ("else", anySchema), ("enum", arrayOf .anything [.type [.array]]),
   ("examples", arrayOf .anything [.type [.array]]), ("exclusiveMaximum", typed .number),
   ("exclusiveMinimum", typed .number), ("format", text), ("if", anySchema),
   ("items", .constraints [.anyOf [anySchema, schemaList]]), ("maxItems", size),
   ("maxLength", size), ("maxProperties", size), ("maximum", typed .number),
   ("minItems", size), ("minLength", size), ("minProperties", size),
   ("minimum", typed .number), ("multipleOf", positive), ("not", anySchema),
   ("oneOf", schemaList), ("pattern", .constraints [.regex, .type [.string]]),
   ("patternProperties", .constraints [.everyProperty [] [] anySchema,
     .propertyNames (.constraints [.regex]), .type [.object]]),
   ("properties", mapOf anySchema), ("propertyNames", anySchema),
   ("readOnly", typed .boolean), ("required", textList), ("then", anySchema),
   ("title", text), ("type", typeNames), ("uniqueItems", typed .boolean)]

/-- The schema of schemas in a dialect. -/
def metaSchema : SchemaDialect → Schema
  | current => currentSchema
  | older => vocabulary olderKeywords

/-- The dialects by the scheme and the place of their identifiers. -/
def known : List ((String × String) × SchemaDialect) :=
  [(("https", "json-schema.org/draft/2020-12/schema"), current),
   (("https", "json-schema.org/draft/2019-09/schema"), current),
   (("http", "json-schema.org/draft-07/schema"), older),
   (("http", "json-schema.org/draft-06/schema"), older),
   (("http", "json-schema.org/draft-04/schema"), older)]

/-- The dialect of an identifier. -/
def ofIdentifier? (name : String) : Option SchemaDialect :=
  (known.find? fun entry => entry.1.1 ++ "://" ++ entry.1.2 == name).map Prod.snd

/-- An identifier without the marks at its end. -/
def withoutMarks (name : String) : String :=
  String.ofList (name.toList.reverse.dropWhile (· == '#')).reverse

/-- The dialect that a schema says it is written in. -/
def of (schema : Json) : Except SchemaFault SchemaDialect :=
  match (schema.get? "$schema").bind Json.asString? with
  | none => .ok current
  | some name =>
    match ofIdentifier? (withoutMarks name) with
    | some dialect => .ok dialect
    | none => .error (.unknownDialect (withoutMarks name))

/-- The first fault of a schema under the schema of schemas. -/
def firstFault? (dialect : SchemaDialect) (schema : Json) : Option SchemaFault :=
  let reading := SchemaReading.level [(selfName, dialect.metaSchema)] (6 * schema.depth + 8)
  ((reading.violations dialect.metaSchema [] schema).head?).map SchemaViolation.fault

end SchemaDialect

end PluginHost
