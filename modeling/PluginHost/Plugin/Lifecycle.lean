import PluginHost.Plugin.Basic

/-!
# The lifecycle of a plugin instance

An instance is created, becomes active when its `init` succeeds and is stopped by a failed
`init` or by `shutdown`.  Taking the instance out of a state is one step and running the hook
another: `init` marks the instance stopped first and active only after its hook has succeeded,
so that no second `init` can start; `shutdown` marks it stopped before its hook runs.
-/

namespace PluginHost

/-- The lifecycle state of an instance. -/
inductive PluginState where
  /-- `init` has not run. -/
  | created
  /-- `init` succeeded in a context; tools may be called. -/
  | active (context : PluginContext)
  /-- `init` is running or failed, or `shutdown` has been called. -/
  | stopped

/-- The name of a state. -/
def PluginState.name : PluginState → String
  | created => "created"
  | active _ => "active"
  | stopped => "stopped"

/-- A plugin instance and its state. -/
structure PluginHandle where
  id : String
  plugin : Plugin
  state : PluginState

/-- The error of a hook that panicked. -/
def panicError (id phase : String) : PanicPayload → HostError
  | .text message => .plugin id s!"{phase} panicked: {message}"
  | .other => .plugin id s!"{phase} panicked: non-string panic payload"

/-- The result of a hook. -/
def HookOutcome.result (outcome : HookOutcome) (id phase : String) : Except HostError Unit :=
  match outcome with
  | succeeded => .ok ()
  | failed error => .error error
  | panicked payload => .error (panicError id phase payload)

theorem HookOutcome.result_eq_ok_iff (outcome : HookOutcome) (id phase : String) :
    outcome.result id phase = .ok () ↔ outcome = .succeeded := by
  cases outcome <;> simp [HookOutcome.result]

namespace PluginHandle

/-- A new instance. -/
def create (id : String) (plugin : Plugin) : PluginHandle :=
  ⟨id, plugin, .created⟩

/-- Whether tools of the instance may be called. -/
def isActive (handle : PluginHandle) : Bool :=
  match handle.state with
  | .active _ => true
  | _ => false

/-- The instance marked stopped. -/
def stop (handle : PluginHandle) : PluginHandle :=
  { handle with state := .stopped }

/-- The instance marked active in a context. -/
def activate (handle : PluginHandle) (context : PluginContext) : PluginHandle :=
  { handle with state := .active context }

/-- Takes a new instance out of its state, for `init`. -/
def beginInit? (handle : PluginHandle) : Option PluginHandle :=
  match handle.state with
  | .created => some handle.stop
  | _ => none

/-- Takes an active instance out of its state, for `shutdown`, and gives its context. -/
def beginShutdown? (handle : PluginHandle) : Option (PluginHandle × PluginContext) :=
  match handle.state with
  | .active context => some (handle.stop, context)
  | _ => none

/-- The refusal to initialise an instance that is not new. -/
def initRefusal (handle : PluginHandle) : HostError :=
  .plugin handle.id s!"cannot init plugin in state {handle.state.name}"

/-- The tools of an active instance. -/
def tools (handle : PluginHandle) : List ToolFunction :=
  match handle.state with
  | .active context => handle.plugin.tools context
  | _ => []

end PluginHandle

/-- The instances that have been constructed, by number. -/
abbrev Handles := List PluginHandle

/-- A call of plugin code by the host, on the instance of a number. -/
inductive HookCall where
  | construct (number : Nat) (implementation : String)
  | init (number : Nat) (context : PluginContext)
  | shutdown (number : Nat)

/-- What an operation on instances gives: the instances afterwards, the calls of plugin code
in order, and its result. -/
structure Performed (α : Type) where
  handles : Handles
  calls : List HookCall
  result : α

namespace Handles

/-- Whether the instance of a number is active. -/
def isActive (handles : Handles) (number : Nat) : Bool :=
  match handles[number]? with
  | some handle => handle.isActive
  | none => false

/-- The state of an instance after its `init` hook has ended with a result. -/
def afterInit (taken : PluginHandle) (context : PluginContext) :
    Except HostError Unit → PluginHandle
  | .ok () => taken.activate context
  | .error _ => taken

/-- Runs `init` on a new instance. -/
def init (handles : Handles) (number : Nat) (context : PluginContext) :
    Performed (Except HostError Unit) :=
  match handles[number]? with
  | none => ⟨handles, [], .error (.internal "no such plugin instance")⟩
  | some handle =>
    match handle.beginInit? with
    | none => ⟨handles, [], .error handle.initRefusal⟩
    | some taken =>
      let result := (handle.plugin.init context).result handle.id "init"
      ⟨handles.set number (afterInit taken context result), [.init number context], result⟩

/-- Initialising the instance that was constructed last. -/
theorem init_append (handles : Handles) (id : String) (plugin : Plugin)
    (context : PluginContext) :
    init (handles ++ [PluginHandle.create id plugin]) handles.length context =
      ⟨handles ++ [afterInit (PluginHandle.create id plugin).stop context
          ((plugin.init context).result id "init")],
        [.init handles.length context], (plugin.init context).result id "init"⟩ := by
  have last : (handles ++ [PluginHandle.create id plugin])[handles.length]? =
      some (PluginHandle.create id plugin) := by
    simp
  have begun : (PluginHandle.create id plugin).beginInit? =
      some (PluginHandle.create id plugin).stop :=
    rfl
  have replaced (after : PluginHandle) :
      (handles ++ [PluginHandle.create id plugin]).set handles.length after =
        handles ++ [after] := by
    simp
  simp only [init, last, begun, replaced]
  rfl

/-- Runs `shutdown` on an active instance and does nothing to any other. -/
def shutdown (handles : Handles) (number : Nat) : Performed (Except HostError Unit) :=
  match handles[number]? with
  | none => ⟨handles, [], .ok ()⟩
  | some handle =>
    match handle.beginShutdown? with
    | none => ⟨handles, [], .ok ()⟩
    | some (taken, context) =>
      ⟨handles.set number taken, [.shutdown number],
        (handle.plugin.shutdown context).result handle.id "shutdown"⟩

theorem isActive_eq_true_iff (handles : Handles) (number : Nat) :
    handles.isActive number = true ↔
      ∃ handle context, handles[number]? = some handle ∧ handle.state = .active context := by
  rw [isActive]
  cases found : handles[number]? with
  | none => simp
  | some handle => cases state : handle.state <;> simp [PluginHandle.isActive, state]

theorem shutdown_of_active {handles : Handles} {number : Nat} {handle : PluginHandle}
    {context : PluginContext} (found : handles[number]? = some handle)
    (active : handle.state = .active context) :
    shutdown handles number =
      ⟨handles.set number handle.stop, [.shutdown number],
        (handle.plugin.shutdown context).result handle.id "shutdown"⟩ := by
  simp [shutdown, found, PluginHandle.beginShutdown?, active]

theorem shutdown_of_not_active {handles : Handles} {number : Nat}
    (inactive : handles.isActive number = false) :
    shutdown handles number = ⟨handles, [], .ok ()⟩ := by
  rw [shutdown]
  cases found : handles[number]? with
  | none => rfl
  | some handle =>
      cases state : handle.state with
      | active context => simp [isActive, found, PluginHandle.isActive, state] at inactive
      | _ => simp [PluginHandle.beginShutdown?, state]

end Handles

end PluginHost
