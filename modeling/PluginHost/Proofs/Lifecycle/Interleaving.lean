import PluginHost.Plugin.Lifecycle

/-!
# Calls on a shared instance

Nothing orders the calls of `init` and `shutdown` on an instance.  Each call goes through atomic
actions of its own: it exchanges the state of the instance if that is the state it looks for,
it runs its hook if it has taken the instance so, and `init` stores the active state at its end.
Between two actions of one call the others may do any number of theirs, a hook may end in any
way, and a call that has not returned may be cancelled.

This file defines the runs of such calls.  A call that is left alone does what the host's own
operations on instances do.
-/

namespace PluginHost

/-- A call on an instance. -/
inductive LifecycleCall where
  | init (context : PluginContext)
  | shutdown

/-- How far a call has come.  An `init` that takes the instance runs its hook and either marks the
instance active or returns the error of the hook; one that finds an instance that is not new is
refused and turned away with an error.  A `shutdown` that takes the instance returns the result of
its hook; one that finds an instance that is not active has nothing to do. -/
inductive CallPhase where
  | initCalled (context : PluginContext)
  | initTaken (context : PluginContext)
  | initRunning (context : PluginContext)
  /-- The `init` hook has succeeded and the instance is not yet marked active. -/
  | initSucceeded (context : PluginContext)
  | initDone
  | initFailed (error : HostError)
  | initRefused
  | initTurnedAway (error : HostError)
  | shutdownCalled
  | shutdownTaken (context : PluginContext)
  | shutdownRunning (context : PluginContext)
  | shutdownEnded (result : Except HostError Unit)
  | shutdownIdle

/-- What a call may do at once. -/
inductive CallAction where
  /-- `init` exchanges the created state for the stopped one; whether it was the state. -/
  | exchangeInit (taken : Bool)
  /-- A refused `init` reads the state for its error. -/
  | readState
  | startInit
  | endInit (outcome : HookOutcome)
  | storeActive
  /-- `shutdown` exchanges the active state for the stopped one; whether it was the state. -/
  | exchangeShutdown (taken : Bool)
  | startShutdown
  | endShutdown (outcome : HookOutcome)
  | cancel
deriving DecidableEq

def LifecycleCall.firstPhase : LifecycleCall → CallPhase
  | init context => .initCalled context
  | shutdown => .shutdownCalled

namespace CallPhase

/-- What `init` has returned. -/
def initResult? : CallPhase → Option (Except HostError Unit)
  | initDone => some (.ok ())
  | initFailed error => some (.error error)
  | initTurnedAway error => some (.error error)
  | _ => none

/-- What `shutdown` has returned. -/
def shutdownResult? : CallPhase → Option (Except HostError Unit)
  | shutdownEnded result => some result
  | shutdownIdle => some (.ok ())
  | _ => none

/-- Whether the call has returned. -/
def hasReturned (phase : CallPhase) : Bool :=
  phase.initResult?.isSome || phase.shutdownResult?.isSome

end CallPhase

/-- A call that has been made, and whether it has been cancelled. -/
structure OngoingCall where
  phase : CallPhase
  cancelled : Bool

/-- What one action of a call that is not cancelled makes of the instance and of the phase of
the call.  There is nothing if the call does not come to that action. -/
def PluginHandle.advance? (handle : PluginHandle) :
    CallPhase → CallAction → Option (PluginHandle × CallPhase)
  | .initCalled context, .exchangeInit taken =>
    match handle.beginInit?, taken with
    | some stopped, true => some (stopped, .initTaken context)
    | none, false => some (handle, .initRefused)
    | _, _ => none
  | .initRefused, .readState => some (handle, .initTurnedAway handle.initRefusal)
  | .initTaken context, .startInit => some (handle, .initRunning context)
  | .initRunning context, .endInit outcome =>
    match outcome.result handle.id "init" with
    | .ok () => some (handle, .initSucceeded context)
    | .error error => some (handle, .initFailed error)
  | .initSucceeded context, .storeActive => some (handle.activate context, .initDone)
  | .shutdownCalled, .exchangeShutdown taken =>
    match handle.beginShutdown?, taken with
    | some (stopped, context), true => some (stopped, .shutdownTaken context)
    | none, false => some (handle, .shutdownIdle)
    | _, _ => none
  | .shutdownTaken context, .startShutdown => some (handle, .shutdownRunning context)
  | .shutdownRunning _, .endShutdown outcome =>
    some (handle, .shutdownEnded (outcome.result handle.id "shutdown"))
  | _, _ => none

/-- What one action of a call makes of the instance and of the call. -/
def OngoingCall.act? (call : OngoingCall) (handle : PluginHandle) (action : CallAction) :
    Option (PluginHandle × OngoingCall) :=
  if call.cancelled || call.phase.hasReturned then
    none
  else if action = .cancel then
    some (handle, { call with cancelled := true })
  else
    (handle.advance? call.phase action).map fun (after, phase) => (after, ⟨phase, false⟩)

/-- An instance and the calls that are made on it. -/
structure SharedInstance where
  handle : PluginHandle
  calls : List OngoingCall

/-- An action of one of the calls, which are told apart by number. -/
structure CallEvent where
  call : Nat
  action : CallAction

namespace SharedInstance

/-- A new instance on which calls are going to be made. -/
def start (id : String) (plugin : Plugin) (calls : List LifecycleCall) : SharedInstance :=
  ⟨.create id plugin, calls.map fun call => ⟨call.firstPhase, false⟩⟩

/-- What comes of one action of one call. -/
def step? (shared : SharedInstance) (event : CallEvent) : Option SharedInstance := do
  let call ← shared.calls[event.call]?
  let (handle, after) ← call.act? shared.handle event.action
  return ⟨handle, shared.calls.set event.call after⟩

/-- What comes of actions one after the other. -/
def run? (shared : SharedInstance) (events : List CallEvent) : Option SharedInstance :=
  events.foldlM step? shared

end SharedInstance

/-! ### What one action does -/

/-- The actions of calls: what each does to the instance and to its call. -/
inductive Acts (handle : PluginHandle) :
    OngoingCall → CallAction → PluginHandle → OngoingCall → Prop
  | takeInit {context : PluginContext} (created : handle.state = .created) :
      Acts handle ⟨.initCalled context, false⟩ (.exchangeInit true)
        handle.stop ⟨.initTaken context, false⟩
  | missInit {context : PluginContext} (used : handle.state ≠ .created) :
      Acts handle ⟨.initCalled context, false⟩ (.exchangeInit false)
        handle ⟨.initRefused, false⟩
  | readState :
      Acts handle ⟨.initRefused, false⟩ .readState
        handle ⟨.initTurnedAway handle.initRefusal, false⟩
  | startInit {context : PluginContext} :
      Acts handle ⟨.initTaken context, false⟩ .startInit handle ⟨.initRunning context, false⟩
  | succeedInit {context : PluginContext} :
      Acts handle ⟨.initRunning context, false⟩ (.endInit .succeeded)
        handle ⟨.initSucceeded context, false⟩
  | failInit {context : PluginContext} {outcome : HookOutcome} {error : HostError}
      (failed : outcome.result handle.id "init" = .error error) :
      Acts handle ⟨.initRunning context, false⟩ (.endInit outcome)
        handle ⟨.initFailed error, false⟩
  | storeActive {context : PluginContext} :
      Acts handle ⟨.initSucceeded context, false⟩ .storeActive
        (handle.activate context) ⟨.initDone, false⟩
  | takeShutdown {context : PluginContext} (active : handle.state = .active context) :
      Acts handle ⟨.shutdownCalled, false⟩ (.exchangeShutdown true)
        handle.stop ⟨.shutdownTaken context, false⟩
  | missShutdown (inactive : handle.isActive = false) :
      Acts handle ⟨.shutdownCalled, false⟩ (.exchangeShutdown false)
        handle ⟨.shutdownIdle, false⟩
  | startShutdown {context : PluginContext} :
      Acts handle ⟨.shutdownTaken context, false⟩ .startShutdown
        handle ⟨.shutdownRunning context, false⟩
  | endShutdown {context : PluginContext} {outcome : HookOutcome} :
      Acts handle ⟨.shutdownRunning context, false⟩ (.endShutdown outcome)
        handle ⟨.shutdownEnded (outcome.result handle.id "shutdown"), false⟩
  | cancel {phase : CallPhase} (pending : phase.hasReturned = false) :
      Acts handle ⟨phase, false⟩ .cancel handle ⟨phase, true⟩

theorem PluginHandle.beginInit?_eq_some_iff {handle stopped : PluginHandle} :
    handle.beginInit? = some stopped ↔ handle.state = .created ∧ stopped = handle.stop := by
  cases state : handle.state <;> simp [beginInit?, state, eq_comm]

theorem PluginHandle.beginInit?_eq_none_iff {handle : PluginHandle} :
    handle.beginInit? = none ↔ handle.state ≠ .created := by
  cases state : handle.state <;> simp [beginInit?, state]

theorem PluginHandle.beginShutdown?_eq_some_iff {handle stopped : PluginHandle}
    {context : PluginContext} :
    handle.beginShutdown? = some (stopped, context) ↔
      handle.state = .active context ∧ stopped = handle.stop := by
  cases state : handle.state <;> simp [beginShutdown?, state, eq_comm, and_comm]

theorem PluginHandle.beginShutdown?_eq_none_iff {handle : PluginHandle} :
    handle.beginShutdown? = none ↔ handle.isActive = false := by
  cases state : handle.state <;> simp [beginShutdown?, isActive, state]

theorem PluginHandle.acts_of_advance? {handle after : PluginHandle} {phase next : CallPhase}
    {action : CallAction} (advanced : handle.advance? phase action = some (after, next)) :
    Acts handle ⟨phase, false⟩ action after ⟨next, false⟩ := by
  revert advanced
  fun_cases PluginHandle.advance? handle phase action with
  | case1 context stopped begun =>
      rintro ⟨⟩
      obtain ⟨created, rfl⟩ := beginInit?_eq_some_iff.mp begun
      exact .takeInit created
  | case2 context unbegun =>
      rintro ⟨⟩
      exact .missInit (beginInit?_eq_none_iff.mp unbegun)
  | case4 => rintro ⟨⟩; exact .readState
  | case5 => rintro ⟨⟩; exact .startInit
  | case6 context outcome ended =>
      rintro ⟨⟩
      obtain rfl := (outcome.result_eq_ok_iff _ _).mp ended
      exact .succeedInit
  | case7 context outcome error ended => rintro ⟨⟩; exact .failInit ended
  | case8 => rintro ⟨⟩; exact .storeActive
  | case9 stopped context begun =>
      rintro ⟨⟩
      obtain ⟨active, rfl⟩ := beginShutdown?_eq_some_iff.mp begun
      exact .takeShutdown active
  | case10 unbegun =>
      rintro ⟨⟩
      exact .missShutdown (beginShutdown?_eq_none_iff.mp unbegun)
  | case12 => rintro ⟨⟩; exact .startShutdown
  | case13 => rintro ⟨⟩; exact .endShutdown
  | _ => simp

theorem OngoingCall.acts_of_act? {handle after : PluginHandle} {call next : OngoingCall}
    {action : CallAction} (acted : call.act? handle action = some (after, next)) :
    Acts handle call action after next := by
  obtain ⟨phase, cancelled⟩ := call
  rw [OngoingCall.act?] at acted
  split at acted
  case isTrue => simp at acted
  case isFalse ongoing =>
    obtain ⟨rfl, pending⟩ : cancelled = false ∧ phase.hasReturned = false := by
      simpa using ongoing
    split at acted
    case isTrue cancels =>
      cases acted
      exact cancels ▸ .cancel pending
    case isFalse =>
      obtain ⟨⟨after, next⟩, advanced, same⟩ := Option.map_eq_some_iff.mp acted
      cases same
      exact PluginHandle.acts_of_advance? advanced

/-- A call that has not returned and is not cancelled can go on. -/
theorem OngoingCall.exists_act? (handle : PluginHandle) {phase : CallPhase}
    (pending : phase.hasReturned = false) :
    ∃ action ≠ .cancel, ((⟨phase, false⟩ : OngoingCall).act? handle action).isSome := by
  cases phase with
  | initCalled context =>
      cases begun : handle.beginInit? with
      | none => exact ⟨.exchangeInit false, by simp [act?, pending, PluginHandle.advance?, begun]⟩
      | some stopped =>
          exact ⟨.exchangeInit true, by simp [act?, pending, PluginHandle.advance?, begun]⟩
  | initTaken context => exact ⟨.startInit, by simp [act?, pending, PluginHandle.advance?]⟩
  | initRunning context =>
      exact ⟨.endInit .succeeded,
        by simp [act?, pending, PluginHandle.advance?, HookOutcome.result]⟩
  | initSucceeded context => exact ⟨.storeActive, by simp [act?, pending, PluginHandle.advance?]⟩
  | initRefused => exact ⟨.readState, by simp [act?, pending, PluginHandle.advance?]⟩
  | shutdownCalled =>
      cases begun : handle.beginShutdown? with
      | none =>
          exact ⟨.exchangeShutdown false, by simp [act?, pending, PluginHandle.advance?, begun]⟩
      | some taken =>
          exact ⟨.exchangeShutdown true, by simp [act?, pending, PluginHandle.advance?, begun]⟩
  | shutdownTaken context =>
      exact ⟨.startShutdown, by simp [act?, pending, PluginHandle.advance?]⟩
  | shutdownRunning context =>
      exact ⟨.endShutdown .succeeded, by simp [act?, pending, PluginHandle.advance?]⟩
  | initDone => cases pending
  | initFailed => cases pending
  | initTurnedAway => cases pending
  | shutdownEnded => cases pending
  | shutdownIdle => cases pending

namespace SharedInstance

@[simp]
theorem run?_nil (shared : SharedInstance) : shared.run? [] = some shared :=
  rfl

theorem run?_cons (shared : SharedInstance) (event : CallEvent) (events : List CallEvent) :
    shared.run? (event :: events) = (shared.step? event).bind (run? · events) :=
  rfl

theorem exists_step?_of_cons {shared final : SharedInstance} {event : CallEvent}
    {events : List CallEvent} (runs : shared.run? (event :: events) = some final) :
    ∃ next, shared.step? event = some next ∧ next.run? events = some final := by
  rw [run?_cons] at runs
  exact Option.bind_eq_some_iff.mp runs

theorem run?_append (shared : SharedInstance) (first second : List CallEvent) :
    shared.run? (first ++ second) = (shared.run? first).bind (run? · second) :=
  List.foldlM_append

theorem exists_run?_of_append {shared final : SharedInstance} {first second : List CallEvent}
    (runs : shared.run? (first ++ second) = some final) :
    ∃ middle, shared.run? first = some middle ∧ middle.run? second = some final := by
  rw [run?_append] at runs
  exact Option.bind_eq_some_iff.mp runs

/-- Every step is an action of one call and leaves the other calls where they are. -/
theorem exists_acts_of_step? {shared next : SharedInstance} {event : CallEvent}
    (stepped : shared.step? event = some next) :
    ∃ call after, shared.calls[event.call]? = some call ∧
      Acts shared.handle call event.action next.handle after ∧
      next.calls = shared.calls.set event.call after := by
  obtain ⟨call, found, stepped⟩ := Option.bind_eq_some_iff.mp stepped
  obtain ⟨⟨handle, after⟩, acted, stepped⟩ := Option.bind_eq_some_iff.mp stepped
  cases stepped
  exact ⟨call, after, found, OngoingCall.acts_of_act? acted, rfl⟩

/-! ### Calls that are left alone -/

/-- The actions of `init` from the end of its hook on. -/
def initEndActions : HookOutcome → List CallAction
  | .succeeded => [.endInit .succeeded, .storeActive]
  | outcome => [.endInit outcome]

/-- The actions of an `init` with which nothing interferes. -/
def initActions (handle : PluginHandle) (context : PluginContext) : List CallAction :=
  match handle.beginInit? with
  | none => [.exchangeInit false, .readState]
  | some _ => .exchangeInit true :: .startInit :: initEndActions (handle.plugin.init context)

/-- The actions of a `shutdown` with which nothing interferes. -/
def shutdownActions (handle : PluginHandle) : List CallAction :=
  match handle.beginShutdown? with
  | none => [.exchangeShutdown false]
  | some (_, context) =>
    [.exchangeShutdown true, .startShutdown, .endShutdown (handle.plugin.shutdown context)]

/-- An `init` that is left alone ends as the host's own `init` of the instance does. -/
theorem run?_initActions (handle : PluginHandle) (context : PluginContext) :
    ∃ after phase,
      run? ⟨handle, [⟨.initCalled context, false⟩]⟩
          ((initActions handle context).map (CallEvent.mk 0)) =
        some ⟨after, [⟨phase, false⟩]⟩ ∧
      (Handles.init [handle] 0 context).handles = [after] ∧
      phase.initResult? = some (Handles.init [handle] 0 context).result := by
  obtain ⟨id, plugin, state⟩ := handle
  cases state with
  | created =>
      have actions : initActions ⟨id, plugin, .created⟩ context =
          .exchangeInit true :: .startInit :: initEndActions (plugin.init context) :=
        rfl
      have alone : Handles.init [⟨id, plugin, .created⟩] 0 context =
          ⟨[Handles.afterInit ⟨id, plugin, .stopped⟩ context
              ((plugin.init context).result id "init")],
            [.init 0 context], (plugin.init context).result id "init"⟩ :=
        rfl
      rw [actions, alone]
      cases plugin.init context with
      | succeeded => exact ⟨_, _, rfl, rfl, rfl⟩
      | failed error => exact ⟨_, _, rfl, rfl, rfl⟩
      | panicked payload => exact ⟨_, _, rfl, rfl, rfl⟩
  | active other => exact ⟨_, _, rfl, rfl, rfl⟩
  | stopped => exact ⟨_, _, rfl, rfl, rfl⟩

/-- A `shutdown` that is left alone ends as the host's own `shutdown` of the instance does. -/
theorem run?_shutdownActions (handle : PluginHandle) :
    ∃ after phase,
      run? ⟨handle, [⟨.shutdownCalled, false⟩]⟩
          ((shutdownActions handle).map (CallEvent.mk 0)) =
        some ⟨after, [⟨phase, false⟩]⟩ ∧
      (Handles.shutdown [handle] 0).handles = [after] ∧
      phase.shutdownResult? = some (Handles.shutdown [handle] 0).result := by
  obtain ⟨id, plugin, state⟩ := handle
  cases state with
  | active context => exact ⟨_, _, rfl, rfl, rfl⟩
  | created => exact ⟨_, _, rfl, rfl, rfl⟩
  | stopped => exact ⟨_, _, rfl, rfl, rfl⟩

end SharedInstance

end PluginHost
