import PluginHost.Plugin.Basic

/-!
# Public definitions of tools

What callers learn about a tool is drawn from its descriptor and from the signature of its
function: the schema may say more about a parameter than the signature does, and its word
counts first for types, last for defaults.
-/

namespace PluginHost

/-- A parameter as callers see it. -/
structure ParameterDefinition where
  name : String
  type : ParamType
  /-- Whether the argument must be given. -/
  required : Bool
  /-- The value of an omitted argument. -/
  default : Option Json
  description : String

/-- A tool as callers see it. -/
structure ToolDefinition where
  name : String
  pluginId : String
  shortDescription : String
  longDescription : String
  parameters : List ParameterDefinition
  parametersSchema : Json

/-- The type that a schema's `type` asks for: a name, or the first name in a list that is not
`null`; names that are no parameter types ask for nothing. -/
def ParamType.ofSchemaType? : Json → Option ParamType
  | .string name => ofName? name
  | .array names =>
    ((names.filterMap Json.asString?).find? fun name => name != "null").bind ofName?
  | _ => none

namespace ParameterDefinition

/-- The property of a parameter in a schema. -/
def property? (schema : Json) (name : String) : Option Json :=
  ((schema.get? "properties").bind Json.asObject?).bind (KeyedList.get? name)

/-- Whether a schema lists its required properties and leaves a name out. -/
def isOptionalIn (schema : Json) (name : String) : Bool :=
  match (schema.get? "required").bind Json.asArray? with
  | some names => !(names.filterMap Json.asString?).contains name
  | none => false

/-- What is said about a parameter: by the tool, else by the schema, else nothing. -/
def descriptionOf (descriptor : ToolDescriptor) (name : String) : String :=
  match descriptor.parameterDocs.lookup name with
  | some text => text
  | none =>
    (((property? descriptor.parametersSchema name).bind (Json.get? "description")).bind
      Json.asString?).getD ""

/-- The definition of a parameter of a tool's function. -/
def of (descriptor : ToolDescriptor) (param : ParamSpec) : ParameterDefinition :=
  let property := property? descriptor.parametersSchema param.name
  let default := param.default.or (property.bind (Json.get? "default"))
  { name := param.name
    type := ((property.bind (Json.get? "type")).bind ParamType.ofSchemaType?).getD param.type
    required := default.isNone && !isOptionalIn descriptor.parametersSchema param.name
    default := default
    description := descriptionOf descriptor param.name }

/-- The JSON of a parameter; a missing default is left out. -/
def toJson (parameter : ParameterDefinition) : Json :=
  .ofFields <|
    [("name", .string parameter.name), ("jsonType", .string parameter.type.name),
     ("required", .bool parameter.required),
     ("description", .string parameter.description)] ++
      match parameter.default with
      | some value => [("defaultValue", value)]
      | none => []

end ParameterDefinition

namespace ToolDefinition

/-- The definition of a function that a plugin owns. -/
def of (pluginId : String) (function : ToolFunction) : ToolDefinition :=
  let descriptor := function.descriptor
  { name := descriptor.name
    pluginId := pluginId
    shortDescription := descriptor.shortDescription
    longDescription := descriptor.longDescription
    parameters := function.params.map (ParameterDefinition.of descriptor)
    parametersSchema := descriptor.parametersSchema }

/-- The JSON of a definition. -/
def toJson (definition : ToolDefinition) : Json :=
  .ofFields
    [("name", .string definition.name), ("pluginId", .string definition.pluginId),
     ("shortDescription", .string definition.shortDescription),
     ("longDescription", .string definition.longDescription),
     ("parameters", .array (definition.parameters.map ParameterDefinition.toJson)),
     ("parametersSchema", definition.parametersSchema)]

/-- The text that describes a tool to a chat model: the short description, and the long one
after a blank line if there is one. -/
def chatDescription (definition : ToolDefinition) : String :=
  if definition.longDescription == "" then definition.shortDescription
  else definition.shortDescription ++ "\n\n" ++ definition.longDescription

/-- The entry of a tool in the tool list of a chat request. -/
def chatEntry (definition : ToolDefinition) : Json :=
  .ofFields
    [("type", .string "function"),
     ("function", .ofFields
       [("name", .string definition.name),
        ("description", .string definition.chatDescription),
        ("parameters", definition.parametersSchema)])]

end ToolDefinition

end PluginHost
