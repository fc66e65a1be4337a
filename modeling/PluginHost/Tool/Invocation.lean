import PluginHost.Text.Quoted
import PluginHost.Tool.Registry

/-!
# Invoking tools

A call may wait for its tool as long as it takes, or only up to a limit.  A call with a limit
runs on its own, so that a panic of the tool becomes an error of the call; without a limit the
panic reaches the caller.
-/

namespace PluginHost

open Text

/-- What a caller that waits without a limit sees. -/
inductive InvocationOutcome where
  | finished (result : Except HostError Json)
  | panicked (payload : PanicPayload)
  /-- The tool never ends. -/
  | pending

/-- The outcome of a tool call for a caller that waits. -/
def ToolRun.awaited (run : ToolRun) : InvocationOutcome :=
  match run.delay, run.outcome with
  | none, _ => .pending
  | some _, .returned value => .finished (.ok value)
  | some _, .failed error => .finished (.error error)
  | some _, .panicked payload => .panicked payload

/-- How a panic that ended a call is told; tasks are told apart by nothing but their number,
which is not shown. -/
def PanicPayload.taskText : PanicPayload → String
  | text message => s!"task # panicked with message {quoted message}"
  | other => "task # panicked"

/-- What a call with a limit comes to. -/
structure LimitedCall where
  result : Except HostError Json
  /-- The call that was put to its handler, if it got so far. -/
  started : Option PreparedCall
  warnings : List HostWarning

namespace ToolRegistry

/-- Calls a tool and waits for its result. -/
def invoke (registry : ToolRegistry) (handles : Handles) (name : String) (args : Json) :
    InvocationOutcome :=
  match registry.prepare handles name args with
  | .error error => .finished (.error error)
  | .ok call => call.run.awaited

/-- The result of a tool call that has ended. -/
def resultOf (name : String) : ToolOutcome → Except HostError Json
  | .returned value => .ok value
  | .failed error => .error error
  | .panicked payload =>
    .error (.internal s!"tool `{name}` did not complete: {payload.taskText}")

/-- Whether a tool call ends before a limit. -/
def endsBefore (run : ToolRun) (limit : Span) : Bool :=
  match run.delay with
  | some delay => decide (delay < limit)
  | none => false

/-- The result of a tool call up to a limit. -/
def resultWithin (name : String) (run : ToolRun) (limit : Span) :
    Except HostError Json × List HostWarning :=
  if endsBefore run limit then
    (resultOf name run.outcome, [])
  else
    (.error (.toolTimeout name limit), [.toolTimedOut name limit.milliseconds])

/-- Calls a tool and waits for its result up to a limit. -/
def invokeWithin (registry : ToolRegistry) (handles : Handles) (name : String) (args : Json)
    (limit : Span) : LimitedCall :=
  match registry.prepare handles name args with
  | .error error => ⟨.error error, none, []⟩
  | .ok call =>
    let (result, warnings) := resultWithin name call.run limit
    ⟨result, some call, warnings⟩

end ToolRegistry

end PluginHost
