import PluginHost.Plugin.Lifecycle
import PluginHost.Schema.Compilation
import PluginHost.Text.Quoted
import PluginHost.Tool.Binding
import PluginHost.Warning

/-!
# The tool registry

Tools are kept by name; the last registration of a name wins.  Every call takes the same way:
the tool is looked up, its owner must be active, the arguments are bound, the schema is asked,
and only then the handler runs.
-/

namespace PluginHost

open Text

/-- A tool with what is needed to call it. -/
structure RegisteredTool where
  definition : ToolDefinition
  schema : CompiledSchema
  handler : ToolArgs → ToolRun
  /-- The number of the instance that owns the tool. -/
  owner : Nat

/-- The registered tools by name. -/
structure ToolRegistry where
  tools : KeyedList RegisteredTool

/-- A call whose arguments have passed every check. -/
structure PreparedCall where
  tool : RegisteredTool
  args : ToolArgs

/-- The call put to the tool's handler. -/
def PreparedCall.run (call : PreparedCall) : ToolRun :=
  call.tool.handler call.args

namespace ToolRegistry

/-- The registry without tools. -/
def empty : ToolRegistry :=
  ⟨[]⟩

/-- The names of the tools in order. -/
def names (registry : ToolRegistry) : List String :=
  KeyedList.keys registry.tools

/-- The number of tools. -/
def size (registry : ToolRegistry) : Nat :=
  registry.tools.length

/-- The tool of a name. -/
def find? (name : String) (registry : ToolRegistry) : Option RegisteredTool :=
  KeyedList.get? name registry.tools

/-- The definition of a tool. -/
def definition? (name : String) (registry : ToolRegistry) : Option ToolDefinition :=
  (registry.find? name).map RegisteredTool.definition

/-- All definitions in the order of the names. -/
def definitions (registry : ToolRegistry) : List ToolDefinition :=
  registry.tools.map fun entry => entry.2.definition

/-- All tools as entries of a chat request, in the order of the names. -/
def chatEntries (registry : ToolRegistry) : List Json :=
  registry.definitions.map ToolDefinition.chatEntry

/-- The names of the tools as a text for developers. -/
def text (registry : ToolRegistry) : String :=
  "ToolRegistry \x7b tools: [" ++ ", ".intercalate (registry.names.map quoted) ++ "] \x7d"

/-- Puts a tool into the registry, with a warning if it takes another one's place. -/
def put (tool : RegisteredTool) (registry : ToolRegistry) : ToolRegistry × List HostWarning :=
  let name := tool.definition.name
  let warnings :=
    match registry.find? name with
    | some previous =>
      [.toolReplaced name previous.definition.pluginId tool.definition.pluginId]
    | none => []
  (⟨KeyedList.insert name tool registry.tools⟩, warnings)

/-- Registers a function that belongs to an instance. -/
def registerFunction (pluginId : String) (owner : Nat) (function : ToolFunction)
    (registry : ToolRegistry) : Except HostError (ToolRegistry × List HostWarning) :=
  let name := function.descriptor.name
  if isBlankText name then
    .error (.plugin pluginId "tool name must not be empty")
  else
    match CompiledSchema.ofJson function.descriptor.parametersSchema with
    | .error fault =>
      .error (.plugin pluginId s!"schema of tool `{name}` does not compile: {fault.message}")
    | .ok schema =>
      .ok (registry.put ⟨ToolDefinition.of pluginId function, schema, function.handler, owner⟩)

/-- What registering the tools of an instance gives. -/
structure Registration where
  registry : ToolRegistry
  /-- The number of tools that were registered. -/
  count : Nat
  warnings : List HostWarning

/-- Registers functions one after the other and passes over those that are refused. -/
def registerAll (pluginId : String) (owner : Nat) :
    List ToolFunction → Registration → Registration
  | [], done => done
  | function :: rest, done =>
    registerAll pluginId owner rest <|
      match done.registry.registerFunction pluginId owner function with
      | .ok (registry, warnings) => ⟨registry, done.count + 1, done.warnings ++ warnings⟩
      | .error error =>
        { done with
          warnings := done.warnings ++
            [.toolSkipped pluginId function.descriptor.name error.message] }

/-- Registers the tools of an instance; one that is not active has none to register. -/
def registerPlugin (handles : Handles) (owner : Nat) (registry : ToolRegistry) : Registration :=
  match handles[owner]? with
  | none => ⟨registry, 0, []⟩
  | some handle =>
    if handle.isActive then
      registerAll handle.id owner handle.tools ⟨registry, 0, []⟩
    else
      ⟨registry, 0, [.inactiveNotRegistered handle.id handle.state.name]⟩

/-- The supplied arguments of a call: an object, or null for none. -/
def supplied : Json → Except HostError JsonFields
  | .null => .ok []
  | .object fields => .ok fields
  | _ => .error (.invalidArgument "arguments must be a JSON object")

/-- Asks a tool's schema about the bound arguments. -/
def checkSchema (schema : CompiledSchema) (checked : Json) : Except HostError Unit :=
  match schema.violations checked with
  | [] => .ok ()
  | violations =>
    .error (.invalidArgument ("; ".intercalate (violations.map SchemaViolation.message)))

/-- Checks a call and binds its arguments, without running anything. -/
def prepare (registry : ToolRegistry) (handles : Handles) (name : String) (args : Json) :
    Except HostError PreparedCall :=
  match registry.find? name with
  | none => .error (.toolNotFound name)
  | some tool =>
    if !handles.isActive tool.owner then
      .error (.pluginUnavailable tool.definition.pluginId)
    else
      match supplied args with
      | .error error => .error error
      | .ok fields =>
        match BoundArguments.ofSupplied tool.definition.parameters fields with
        | .error error => .error error
        | .ok arguments =>
          match checkSchema tool.schema (.object arguments.checked) with
          | .error error => .error error
          | .ok () => .ok ⟨tool, ⟨arguments.bound⟩⟩

end ToolRegistry

end PluginHost
