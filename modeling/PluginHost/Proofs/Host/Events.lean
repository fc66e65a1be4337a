import PluginHost.Gateway.Router
import PluginHost.Host.Assembly
import PluginHost.Proofs.Admission.Loaded
import PluginHost.Proofs.Chat.Rounds
import PluginHost.Proofs.Tool.Preparation
import PluginHost.Proofs.Tool.Registration

/-!
# Events of a host

Loads, registrations, tool calls and shutdowns come in any order.  The `init` of an instance may
be under way while other things happen, so that its beginning and its end are events of their
own; a shutdown takes an instance out of its state at once.  What an event can do to an instance
is said once, and everything else follows from it.
-/

namespace PluginHost

/-- A manager with its instances, a registry, and the instances whose `init` hook is running. -/
structure HostState where
  manager : PluginManager
  registry : ToolRegistry
  initialising : List (Nat × PluginContext)

inductive HostEvent where
  | manage (request : ManagerRequest)
  | create (id : String) (plugin : Plugin)
  | beginInit (number : Nat) (context : PluginContext)
  | endInit (number : Nat)
  | shutdown (number : Nat)
  /-- The registry is made anew from the loaded plugins. -/
  | fill
  | registerPlugin (number : Nat)
  | registerFunction (owner : Nat) (function : ToolFunction)
  | invoke (name : String) (args : Json)
  | invokeWithin (name : String) (args : Json) (limit : Span)
  /-- One tool call of a conversation that is under way. -/
  | answerCall (limit : Span) (call : Json)
  | serve (limits : ServerLimits) (provider : Option ChatProvider) (replies : ProviderReplies)
    (request : GatewayRequest)

namespace HostState

def new (rules : AdmissionRules) : HostState :=
  ⟨.new rules, .empty, []⟩

def handles (state : HostState) : Handles :=
  state.manager.handles

def withHandles (state : HostState) (handles : Handles) : HostState :=
  { state with manager := { state.manager with handles := handles } }

/-- Takes a new instance out of its state; its hook runs from now on. -/
def beginInit (state : HostState) (number : Nat) (context : PluginContext) : HostState :=
  match (state.handles[number]?).bind PluginHandle.beginInit? with
  | none => state
  | some taken =>
    { state with
      manager := { state.manager with handles := state.handles.set number taken }
      initialising := (number, context) :: state.initialising }

/-- The instances after a running `init` hook has ended. -/
def endedInit (state : HostState) (number : Nat) : Handles :=
  match state.initialising.lookup number, state.handles[number]? with
  | some context, some handle =>
    state.handles.set number (Handles.afterInit handle context
      ((handle.plugin.init context).result handle.id "init"))
  | _, _ => state.handles

def step (state : HostState) : HostEvent → HostState
  | .manage request => { state with manager := (state.manager.perform request).manager }
  | .create id plugin => state.withHandles (state.handles ++ [PluginHandle.create id plugin])
  | .beginInit number context => state.beginInit number context
  | .endInit number =>
    { state with
      manager := { state.manager with handles := state.endedInit number }
      initialising := state.initialising.filter fun entry => entry.1 != number }
  | .shutdown number => state.withHandles (Handles.shutdown state.handles number).handles
  | .fill => { state with registry := state.manager.registry.1 }
  | .registerPlugin number =>
    { state with registry := state.registry.perform (.plugin state.handles number) }
  | .registerFunction owner function =>
    match state.handles[owner]? with
    | none => state
    | some handle =>
      { state with registry := state.registry.perform (.function ⟨handle, owner, function⟩) }
  | .invoke _ _ | .invokeWithin _ _ _ | .answerCall _ _ | .serve _ _ _ _ => state

/-- The calls that an event puts to handlers. -/
def started (state : HostState) : HostEvent → List PreparedCall
  | .invoke name args => (state.registry.start state.handles name args).handlerCalls
  | .invokeWithin name args limit =>
    (state.registry.invokeWithin state.handles name args limit).started.toList
  | .answerCall limit call =>
    (state.registry.answerCall state.handles limit call).started.toList
  | .serve limits provider replies request =>
    (Gateway.handle ⟨state.registry, limits, provider⟩ state.handles replies request).started
  | _ => []

def run (state : HostState) (events : List HostEvent) : HostState :=
  events.foldl step state

end HostState

/-! ### Instances -/

/-- An instance later on: it is as it was, or it was active and has been stopped. -/
inductive PluginHandle.Ages (handle : PluginHandle) : PluginHandle → Prop where
  | unchanged : Ages handle handle
  | stopped (active : handle.isActive = true) : Ages handle handle.stop

namespace PluginHandle.Ages

variable {handle later last : PluginHandle}

theorem trans (first : handle.Ages later) (second : later.Ages last) : handle.Ages last := by
  cases first with
  | unchanged => exact second
  | stopped active =>
      cases second with
      | unchanged => exact .stopped active
      | stopped activeAfter => cases activeAfter

theorem id_eq (ages : handle.Ages later) : later.id = handle.id := by
  cases ages <;> rfl

/-- An instance that is not active does not change any more. -/
theorem eq_of_not_active (ages : handle.Ages later) (inactive : handle.isActive = false) :
    later = handle := by
  cases ages with
  | unchanged => rfl
  | stopped active =>
      rw [inactive] at active
      cases active

theorem not_created (ages : handle.Ages later) (begun : handle.state ≠ .created) :
    later.state ≠ .created := by
  cases ages with
  | unchanged => exact begun
  | stopped active =>
      intro created
      cases created

end PluginHandle.Ages

namespace Handles

/-- A single shutdown stops the instance of its number, if it is active. -/
theorem shutdown_ages (handles : Handles) (number : Nat) {other : Nat} {handle : PluginHandle}
    (found : handles[other]? = some handle) :
    ∃ later, (shutdown handles number).handles[other]? = some later ∧
      (later = handle ∨ number = other ∧ handle.isActive = true ∧ later = handle.stop) := by
  cases active : handles.isActive number with
  | false =>
      rw [shutdown_of_not_active active]
      exact ⟨handle, found, .inl rfl⟩
  | true =>
      obtain ⟨taken, context, takenFound, state⟩ := (handles.isActive_eq_true_iff number).mp active
      rw [shutdown_of_active takenFound state]
      by_cases same : number = other
      · subst other
        obtain rfl : taken = handle := Option.some.inj (takenFound.symm.trans found)
        have within := (List.getElem?_eq_some_iff.mp found).1
        have wasActive : taken.isActive = true := by simp [PluginHandle.isActive, state]
        exact ⟨taken.stop, List.getElem?_set_self within, .inr ⟨rfl, wasActive, rfl⟩⟩
      · exact ⟨handle, by rw [List.getElem?_set_ne same, found], .inl rfl⟩

/-- After its shutdown no instance is active. -/
theorem isActive_shutdown (handles : Handles) (number : Nat) :
    (shutdown handles number).handles.isActive number = false := by
  cases active : handles.isActive number with
  | false => rwa [shutdown_of_not_active active]
  | true =>
      obtain ⟨taken, context, found, state⟩ := (handles.isActive_eq_true_iff number).mp active
      have within := (List.getElem?_eq_some_iff.mp found).1
      rw [shutdown_of_active found state, isActive, List.getElem?_set_self within]
      rfl

theorem isActive_shutdown_of_not_active {handles : Handles} {other : Nat} (number : Nat)
    (inactive : handles.isActive other = false) :
    (shutdown handles number).handles.isActive other = false := by
  by_cases same : number = other
  · subst other
    exact handles.isActive_shutdown number
  · cases active : handles.isActive number with
    | false => rwa [shutdown_of_not_active active]
    | true =>
        obtain ⟨taken, context, found, state⟩ := (handles.isActive_eq_true_iff number).mp active
        rw [shutdown_of_active found state, isActive, List.getElem?_set_ne same]
        exact inactive

theorem isActive_of_found {handles : Handles} {number : Nat} {handle : PluginHandle}
    (found : handles[number]? = some handle) : handles.isActive number = handle.isActive := by
  rw [isActive, found]

end Handles

namespace PluginManager

variable (manager : PluginManager)

/-- Shutting all plugins down stops instances and does nothing else to them. -/
theorem shutdownAll_ages {number : Nat} {handle : PluginHandle}
    (found : manager.handles[number]? = some handle) :
    ∃ later, manager.shutdownAll.manager.handles[number]? = some later ∧ handle.Ages later := by
  refine shutdownEach_induction
    (motive := fun after _ => ∃ later, after.handles[number]? = some later ∧ handle.Ages later)
    manager.loaded ⟨handle, found, .unchanged⟩ ?_
  rintro after _ plugin _ ⟨later, laterFound, ages⟩
  obtain ⟨last, lastFound, outcome⟩ :=
    Handles.shutdown_ages after.handles plugin.instanceNumber laterFound
  refine ⟨last, lastFound, ages.trans ?_⟩
  rcases outcome with rfl | ⟨-, active, rfl⟩
  · exact .unchanged
  · exact .stopped active

/-- Plugins that are shut down one after the other are not active at the end. -/
theorem isActive_shutdownEach {plugins : List LoadedPlugin} {done : Managed Nat} {number : Nat}
    (stopped : done.manager.handles.isActive number = false ∨
      ∃ plugin ∈ plugins, plugin.instanceNumber = number) :
    (shutdownEach plugins done).manager.handles.isActive number = false := by
  induction plugins generalizing done with
  | nil =>
      rcases stopped with inactive | ⟨plugin, member, -⟩
      · exact inactive
      · cases member
  | cons plugin plugins ih =>
      have first : (Handles.shutdown done.manager.handles
          plugin.instanceNumber).handles.isActive number = false ∨
            ∃ plugin ∈ plugins, plugin.instanceNumber = number := by
        rcases stopped with inactive | ⟨chosen, member, rfl⟩
        · exact .inl (Handles.isActive_shutdown_of_not_active _ inactive)
        · rcases List.mem_cons.mp member with rfl | later
          · exact .inl (Handles.isActive_shutdown _ _)
          · exact .inr ⟨chosen, later, rfl⟩
      rw [shutdownEach]
      apply ih
      split <;> exact first

/-- A request leaves instances as they are, unless it is to shut all plugins down. -/
theorem perform_handles_of_ne_shutdownAll {request : ManagerRequest}
    (other : request ≠ .shutdownAll) :
    ∃ handles, (manager.perform request).manager.handles = manager.handles ++ handles := by
  have grows : request.IsLoad →
      ∃ handles, (manager.perform request).manager.handles = manager.handles ++ handles := by
    intro load
    obtain ⟨handles, loaded, grown⟩ := manager.load_appends load
    exact ⟨handles, by rw [grown]⟩
  cases request with
  | evaluate manifest => exact ⟨[], (List.append_nil _).symm⟩
  | shutdownAll => exact (other rfl).elim
  | loadBuiltin manifest => exact grows trivial
  | loadBundle files bundle => exact grows trivial
  | loadDirectory files directory => exact grows trivial

end PluginManager

/-- What an event does to an instance. -/
inductive InstanceStep (state : HostState) (event : HostEvent) (number : Nat)
    (handle : PluginHandle) : PluginHandle → Prop where
  | unchanged : InstanceStep state event number handle handle
  | begun {context : PluginContext} (event_eq : event = .beginInit number context)
      (created : handle.state = .created) : InstanceStep state event number handle handle.stop
  | ended {context : PluginContext} (event_eq : event = .endInit number)
      (running : (number, context) ∈ state.initialising) :
      InstanceStep state event number handle
        (Handles.afterInit handle context
          ((handle.plugin.init context).result handle.id "init"))
  | stopped (event_eq : event = .shutdown number ∨ event = .manage .shutdownAll)
      (active : handle.isActive = true) : InstanceStep state event number handle handle.stop

namespace HostState

variable (state : HostState)

theorem beginInit_eq {number : Nat} {handle : PluginHandle} (context : PluginContext)
    (found : state.handles[number]? = some handle) (created : handle.state = .created) :
    state.beginInit number context =
      { state with
        manager := { state.manager with handles := state.handles.set number handle.stop }
        initialising := (number, context) :: state.initialising } := by
  rw [beginInit, found, Option.bind_some, PluginHandle.beginInit?, created]

/-- The beginning and the end of an `init`, with nothing in between, are that `init`. -/
theorem handles_beginInit_endInit {number : Nat}
    (idle : ∀ running, (number, running) ∉ state.initialising) (context : PluginContext) :
    (state.run [.beginInit number context, .endInit number]).handles =
      (Handles.init state.handles number context).handles := by
  show (state.beginInit number context).endedInit number = _
  have quiet : state.initialising.lookup number = none := by
    apply List.lookup_eq_none_iff.mpr
    rintro ⟨place, running⟩ member
    simp only [bne_iff_ne]
    rintro rfl
    exact idle running member
  rw [Handles.init]
  cases found : state.handles[number]? with
  | none =>
      rw [beginInit, found]
      simp [endedInit, quiet]
  | some handle =>
      cases current : handle.state with
      | created =>
          have within : number < state.manager.handles.length :=
            (List.getElem?_eq_some_iff.mp found).1
          rw [state.beginInit_eq context found current]
          simp only [endedInit, handles, List.lookup_cons_self, List.getElem?_set_self within,
            List.set_set, PluginHandle.beginInit?, current]
          rfl
      | _ =>
          rw [beginInit, found]
          simp [PluginHandle.beginInit?, current, endedInit, quiet]

theorem beginInit_eq_self_or (number : Nat) (context : PluginContext) :
    state.beginInit number context = state ∨
      ∃ handle, state.handles[number]? = some handle ∧ handle.state = .created := by
  cases found : state.handles[number]? with
  | none =>
      left
      rw [beginInit, found]
      rfl
  | some handle =>
      cases current : handle.state with
      | created => exact .inr ⟨handle, rfl, current⟩
      | _ =>
          left
          rw [beginInit, found, Option.bind_some, PluginHandle.beginInit?, current]

theorem getElem?_set_cases {handles : Handles} {number : Nat} {handle : PluginHandle}
    (place : Nat) (taken : PluginHandle) (found : handles[number]? = some handle) :
    place = number ∧ (handles.set place taken)[number]? = some taken ∨
      place ≠ number ∧ (handles.set place taken)[number]? = some handle := by
  by_cases same : place = number
  · subst place
    exact .inl ⟨rfl, List.getElem?_set_self (List.getElem?_eq_some_iff.mp found).1⟩
  · exact .inr ⟨same, by rw [List.getElem?_set_ne same, found]⟩

/-- An instance is still there after an event, and one of few things has happened to it. -/
theorem step_instance (event : HostEvent) {number : Nat} {handle : PluginHandle}
    (found : state.handles[number]? = some handle) :
    ∃ later, (state.step event).handles[number]? = some later ∧
      InstanceStep state event number handle later := by
  have within : number < state.manager.handles.length :=
    (List.getElem?_eq_some_iff.mp found).1
  cases event with
  | manage request =>
      -- Only a shutdown of all plugins touches instances that are there already.
      by_cases stops : request = .shutdownAll
      · subst request
        obtain ⟨later, laterFound, ages⟩ := state.manager.shutdownAll_ages found
        refine ⟨later, laterFound, ?_⟩
        cases ages with
        | unchanged => exact .unchanged
        | stopped active => exact .stopped (.inr rfl) active
      · obtain ⟨more, grown⟩ := state.manager.perform_handles_of_ne_shutdownAll stops
        refine ⟨handle, ?_, .unchanged⟩
        rw [step, handles, grown, List.getElem?_append_left within]
        exact found
  | create id plugin =>
      refine ⟨handle, ?_, .unchanged⟩
      show (state.manager.handles ++ [PluginHandle.create id plugin])[number]? = some handle
      rw [List.getElem?_append_left within]
      exact found
  | beginInit place context =>
      rcases state.beginInit_eq_self_or place context with same | ⟨taken, takenFound, created⟩
      · exact ⟨handle, by rw [step, same, found], .unchanged⟩
      · rw [step, state.beginInit_eq context takenFound created]
        rcases getElem?_set_cases place taken.stop found with ⟨rfl, now⟩ | ⟨-, now⟩
        · obtain rfl : taken = handle := Option.some.inj (takenFound.symm.trans found)
          exact ⟨taken.stop, now, .begun rfl created⟩
        · exact ⟨handle, now, .unchanged⟩
  | endInit place =>
      -- The context comes from the list of running hooks, which is what `ended` asks for.
      show ∃ later, (state.endedInit place)[number]? = some later ∧ _
      rw [endedInit]
      split
      · rename_i context ended running endedFound
        rcases getElem?_set_cases place (Handles.afterInit ended context
          ((ended.plugin.init context).result ended.id "init")) found with ⟨rfl, now⟩ | ⟨-, now⟩
        · obtain rfl : ended = handle := Option.some.inj (endedFound.symm.trans found)
          obtain ⟨front, back, split, -⟩ := List.lookup_eq_some_iff.mp running
          exact ⟨_, now, .ended rfl (by simp [split])⟩
        · exact ⟨handle, now, .unchanged⟩
      · exact ⟨handle, found, .unchanged⟩
  | shutdown place =>
      obtain ⟨later, laterFound, outcome⟩ := Handles.shutdown_ages state.handles place found
      refine ⟨later, laterFound, ?_⟩
      rcases outcome with rfl | ⟨rfl, active, rfl⟩
      · exact .unchanged
      · exact .stopped (.inl rfl) active
  | registerFunction owner function =>
      refine ⟨handle, ?_, .unchanged⟩
      rw [step]
      split <;> exact found
  | _ => exact ⟨handle, found, .unchanged⟩

/-- The hooks that are running after an event were running before and are not the one that has
ended, or the event has begun them. -/
theorem mem_initialising_step {event : HostEvent} {number : Nat} {context : PluginContext}
    (member : (number, context) ∈ (state.step event).initialising) :
    (number, context) ∈ state.initialising ∧ event ≠ .endInit number ∨
      ∃ handle, state.handles[number]? = some handle ∧ handle.state = .created ∧
        (state.step event).handles[number]? = some handle.stop := by
  cases event with
  | beginInit place beginContext =>
      rcases state.beginInit_eq_self_or place beginContext with same | ⟨taken, found, created⟩
      · rw [step, same] at member
        exact .inl ⟨member, by simp⟩
      · have begun := state.beginInit_eq beginContext found created
        rw [step, begun] at member
        rcases List.mem_cons.mp member with now | earlier
        · cases now
          refine .inr ⟨taken, found, created, ?_⟩
          rw [step, begun]
          exact List.getElem?_set_self (List.getElem?_eq_some_iff.mp found).1
        · exact .inl ⟨earlier, by simp⟩
  | endInit place =>
      obtain ⟨earlier, other⟩ := List.mem_filter.mp member
      refine .inl ⟨earlier, ?_⟩
      rintro ⟨rfl⟩
      simp at other
  | registerFunction owner function =>
      rw [step] at member
      split at member
      all_goals exact .inl ⟨member, by simp⟩
  | _ => exact .inl ⟨member, by simp⟩

end HostState

end PluginHost
