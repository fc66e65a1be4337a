import PluginHost.Error
import PluginHost.Json.Basic
import PluginHost.Tool.Arguments
import PluginHost.Tool.ParamType
import PluginHost.Version.Basic

/-!
# Plugins and their tools

A plugin is what the host can do with it: initialise it in a context, ask it for its tools and
shut it down.  Hooks and tools belong to the plugin; they may succeed, fail or panic, and a
tool may take its time or never finish.
-/

namespace PluginHost

/-- What a panicking hook or tool leaves behind. -/
inductive PanicPayload where
  | text (message : String)
  /-- A payload that is no text. -/
  | other
deriving DecidableEq

/-- How a hook ends. -/
inductive HookOutcome where
  | succeeded
  | failed (error : HostError)
  | panicked (payload : PanicPayload)
deriving DecidableEq

/-- How a tool call ends. -/
inductive ToolOutcome where
  | returned (value : Json)
  | failed (error : HostError)
  | panicked (payload : PanicPayload)

/-- A tool call under way: how long it takes, if it ends at all, and how it ends. -/
structure ToolRun where
  /-- The time until the call ends, none if it never does. -/
  delay : Option Span
  outcome : ToolOutcome

/-- A call that ends at once. -/
def ToolRun.immediate (outcome : ToolOutcome) : ToolRun :=
  ⟨some ⟨0⟩, outcome⟩

/-- A call that ends at once with a value or an error. -/
def ToolRun.ofResult : Except HostError Json → ToolRun
  | .ok value => immediate (.returned value)
  | .error error => immediate (.failed error)

/-- What a tool is called and how it is described. -/
structure ToolDescriptor where
  name : String
  shortDescription : String
  longDescription : String
  /-- The JSON Schema of the argument object. -/
  parametersSchema : Json
  /-- Descriptions of parameters by name. -/
  parameterDocs : List (String × String)

/-- The schema of an object about which nothing else is said. -/
def ToolDescriptor.openSchema : Json :=
  .ofFields [("type", .string "object"), ("properties", .object [])]

/-- A parameter of a tool's own signature. -/
structure ParamSpec where
  name : String
  type : ParamType
  /-- The value of an omitted argument. -/
  default : Option Json

/-- A tool that can be called. -/
structure ToolFunction where
  descriptor : ToolDescriptor
  params : List ParamSpec
  handler : ToolArgs → ToolRun

/-- What a plugin learns when it is initialised. -/
structure PluginContext where
  hostVersion : Version
  apiVersion : Version
  /-- The plugin's own configuration. -/
  config : Json
  /-- The directory of the plugin's bundle, if it has one. -/
  dataDir : Option String

/-- A plugin: its hooks, and its tools once it has been initialised in a context. -/
structure Plugin where
  init : PluginContext → HookOutcome
  tools : PluginContext → List ToolFunction
  shutdown : PluginContext → HookOutcome

end PluginHost
