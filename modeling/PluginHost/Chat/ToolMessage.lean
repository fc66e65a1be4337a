import PluginHost.Json.Reader
import PluginHost.Tool.Invocation

/-!
# Answering the tool calls of a model

A model asks for a tool with a call: an id, a name and arguments, written as JSON text or given
as a value.  Every call is answered by one message.  A failure is told in the message's
content, so that the model can go on, and never stops the conversation.
-/

namespace PluginHost

open Text

/-- The arguments of a call: JSON text, or a value; none or blank text mean no arguments. -/
def callArguments : Json → Except HostError Json
  | .null => .ok (.object [])
  | .string text =>
    if isBlankText text then .ok (.object [])
    else
      (Json.parse text).mapError fun problem =>
        .invalidArgument s!"tool call arguments are not valid JSON: {problem}"
  | other => .ok other

/-- A call as a model writes it. -/
structure ModelCall where
  id : String
  name : String
  arguments : Json

/-- A text member, empty if it is absent or no text. -/
def textMember (key : String) (value : Json) : String :=
  ((value.field key).asString?).getD ""

/-- The parts of a call; those that are absent or of another kind are empty. -/
def ModelCall.ofJson (call : Json) : ModelCall :=
  let function := call.field "function"
  ⟨textMember "id" call, textMember "name" function, function.field "arguments"⟩

/-- The answer to a call. -/
structure ToolAnswer where
  message : Json
  /-- The call that was put to its handler, if it got so far. -/
  started : Option PreparedCall
  warnings : List HostWarning

/-- The content of the message that tells a failure. -/
def failureContent (error : HostError) : String :=
  (Json.object [("error", .string error.message)]).compact

/-- The content of the message that tells a result: a text as it is, any other value as
JSON. -/
def resultContent : Except HostError Json → String
  | .ok (.string text) => text
  | .ok value => value.compact
  | .error error => failureContent error

/-- The message with which a tool answers a call. -/
def toolMessage (id content : String) : Json :=
  .ofFields [("role", .string "tool"), ("tool_call_id", .string id),
    ("content", .string content)]

/-- What is noted of the result of a call. -/
def failureWarnings (name : String) : Except HostError Json → List HostWarning
  | .ok _ => []
  | .error error => [.modelCallFailed name error.message]

namespace ToolRegistry

/-- What a model's call comes to. -/
def runModelCall (registry : ToolRegistry) (handles : Handles) (limit : Span)
    (call : ModelCall) : LimitedCall :=
  match callArguments call.arguments with
  | .error error => ⟨.error error, none, []⟩
  | .ok arguments => registry.invokeWithin handles call.name arguments limit

/-- Answers a call of a model. -/
def answerCall (registry : ToolRegistry) (handles : Handles) (limit : Span) (call : Json) :
    ToolAnswer :=
  let call := ModelCall.ofJson call
  let done := registry.runModelCall handles limit call
  { message := toolMessage call.id (resultContent done.result)
    started := done.started
    warnings := done.warnings ++ failureWarnings call.name done.result }

end ToolRegistry

end PluginHost
