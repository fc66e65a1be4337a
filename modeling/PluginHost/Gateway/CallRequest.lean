import PluginHost.Gateway.Message
import PluginHost.Tool.Invocation

/-!
# Calling tools by request

The body of a call names a tool and may have arguments.  The answer has the tool's result, or
the error of the first stage that fails: reading the body, parsing it, or the call itself.
-/

namespace PluginHost

open Text

/-- A tool call by request. -/
structure CallRequest where
  name : String
  /-- The arguments; null if there are none. -/
  args : Json

namespace CallRequest

/-- The shape of a call. -/
def shape : RecordShape :=
  ⟨"struct CallRequest", [⟨"name", .text, true⟩, ⟨"args", .value, false⟩]⟩

/-- The call that a stream spells. -/
def read (stream : List Symbol) : Except JsonFault CallRequest :=
  (shape.read stream).map fun values => ⟨values.textOf "name", values.valueOf "args"⟩

/-- The answer with a result.  Time that passes while a tool runs is not part of the result and
is told by the outer layer. -/
def answer (result : Json) : Json :=
  .object [("result", result), ("elapsedMs", .ofNat 0)]

end CallRequest

namespace ToolRegistry

/-- What a request to call a tool comes to. -/
def serveCall (registry : ToolRegistry) (handles : Handles) (limits : ServerLimits)
    (headers : HeaderFields) (body : RequestBody) : LimitedCall :=
  match body.readJson CallRequest.read limits headers with
  | .error error => ⟨.error error, none, []⟩
  | .ok call =>
    let done := registry.invokeWithin handles call.name call.args limits.toolTimeout
    { done with result := done.result.map CallRequest.answer }

end ToolRegistry

end PluginHost
