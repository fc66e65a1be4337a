import PluginHost.Proofs.Host.Calls

/-!
# Tools after a shutdown

An instance whose `init` has ended only ever ages: once it is not active any more, it stays as
it is, whatever happens.  Every tool in the registry belongs to an instance and every loaded
plugin has one whose `init` has ended.  So a shutdown is final for the tools of its instance.
-/

namespace PluginHost

open PluginManager HostState

namespace HostState

/-- The `init` of an instance has begun and is not running any more. -/
structure Settled (state : HostState) (number : Nat) (handle : PluginHandle) : Prop where
  found : state.handles[number]? = some handle
  begun : handle.state ≠ .created
  ended : ∀ context, (number, context) ∉ state.initialising

namespace Settled

variable {state : HostState} {number : Nat} {handle : PluginHandle}

/-- Whatever happens to a settled instance, it was shut down or stays as it is. -/
theorem step (settled : state.Settled number handle) (event : HostEvent) :
    ∃ later, (state.step event).Settled number later ∧ handle.Ages later := by
  obtain ⟨later, laterFound, outcome⟩ := state.step_instance event settled.found
  have ages : handle.Ages later := by
    cases outcome with
    | unchanged => exact .unchanged
    | begun _ created => exact (settled.begun created).elim
    | ended _ running => exact (settled.ended _ running).elim
    | stopped _ active => exact .stopped active
  refine ⟨later, ⟨laterFound, ages.not_created settled.begun, ?_⟩, ages⟩
  intro context running
  rcases state.mem_initialising_step running with ⟨earlier, -⟩ | ⟨other, found, created, -⟩
  · exact settled.ended context earlier
  · obtain rfl : other = handle := Option.some.inj (found.symm.trans settled.found)
    exact settled.begun created

theorem run (settled : state.Settled number handle) (events : List HostEvent) :
    ∃ later, (state.run events).Settled number later ∧ handle.Ages later := by
  induction events generalizing state handle with
  | nil => exact ⟨handle, settled, .unchanged⟩
  | cons event events ih =>
      obtain ⟨next, nextSettled, first⟩ := settled.step event
      obtain ⟨later, laterSettled, rest⟩ := ih nextSettled
      exact ⟨later, laterSettled, first.trans rest⟩

/-- A settled instance that is not active is never active again. -/
theorem run_of_not_active (settled : state.Settled number handle)
    (inactive : handle.isActive = false) (events : List HostEvent) :
    (state.run events).handles[number]? = some handle := by
  obtain ⟨later, laterSettled, ages⟩ := settled.run events
  rw [laterSettled.found, ages.eq_of_not_active inactive]

end Settled

end HostState

/-- A tool belongs to an instance that goes by the id in the tool's definition. -/
def RegisteredTool.OwnedIn (tool : RegisteredTool) (handles : Handles) : Prop :=
  ∃ handle, handles[tool.owner]? = some handle ∧ handle.id = tool.definition.pluginId

theorem Submission.Yields.ownedIn {submission : Submission} {tool : RegisteredTool}
    {handles : Handles} (yields : submission.Yields tool)
    (found : handles[submission.number]? = some submission.owner) : tool.OwnedIn handles := by
  refine ⟨submission.owner, ?_, ?_⟩
  · rw [yields.owner_eq, found]
  · rw [yields.definition_eq]
    rfl

theorem RegistryRequest.found_of_mem_submissions {handles : Handles} {number : Nat}
    {submission : Submission} (member : submission ∈ (plugin handles number).submissions) :
    submission.number = number ∧ handles[number]? = some submission.owner := by
  rw [submissions] at member
  split at member
  · cases member
  · rename_i handle found
    obtain ⟨function, -, rfl⟩ := List.mem_map.mp member
    exact ⟨rfl, found⟩

/-- The tools that loaded plugins put into a registry belong to their instances. -/
theorem PluginManager.find?_registerEach {handles : Handles} {loaded : List LoadedPlugin}
    {registry : ToolRegistry} {name : String} {tool : RegisteredTool}
    (found : (registerEach handles loaded registry).1.find? name = some tool) :
    registry.find? name = some tool ∨
      tool.OwnedIn handles ∧ ∃ plugin ∈ loaded, plugin.instanceNumber = tool.owner := by
  induction loaded generalizing registry with
  | nil => exact .inl found
  | cons plugin loaded ih =>
      rcases ih found with first | ⟨owned, later, member, owner⟩
      · have first : (registry.perform (.plugin handles plugin.instanceNumber)).find? name =
            some tool := first
        rcases ToolRegistry.find?_perform first with old | ⟨submission, member, yields⟩
        · exact .inl old
        · obtain ⟨number, ownerFound⟩ := RegistryRequest.found_of_mem_submissions member
          rw [← number] at ownerFound
          refine .inr ⟨yields.ownedIn ownerFound, plugin, List.mem_cons_self, ?_⟩
          rw [yields.owner_eq, number]
      · exact .inr ⟨owned, later, List.mem_cons_of_mem _ member, owner⟩

/-- A manager later on: the plugins that have been added to the loaded ones have new instances,
and their `init` has ended. -/
structure PluginManager.Grows (before after : PluginManager) : Prop where
  length_le : before.handles.length ≤ after.handles.length
  added : ∀ plugin ∈ after.loaded, plugin ∈ before.loaded ∨
    before.handles.length ≤ plugin.instanceNumber ∧
      ∃ handle, after.handles[plugin.instanceNumber]? = some handle ∧ handle.state ≠ .created

namespace PluginManager.Grows

variable {before after : PluginManager}

theorem refl (manager : PluginManager) : manager.Grows manager :=
  ⟨Nat.le_refl _, fun _ => .inl⟩

/-- Another instance is constructed, and its plugin may be loaded. -/
theorem construct (grows : before.Grows after) (handle : PluginHandle) :
    before.Grows { after with handles := after.handles ++ [handle] } := by
  refine ⟨?_, ?_⟩
  · rw [List.length_append]
    exact Nat.le_add_right_of_le grows.length_le
  · intro plugin member
    rcases grows.added plugin member with old | ⟨isNew, other, found, begun⟩
    · exact .inl old
    · have within := (List.getElem?_eq_some_iff.mp found).1
      exact .inr ⟨isNew, other, by rw [List.getElem?_append_left within, found], begun⟩

theorem shutdownAll (grows : before.Grows after) :
    before.Grows after.shutdownAll.manager := by
  obtain ⟨-, loaded, length, -⟩ := after.shutdownAll_frame
  refine ⟨by rw [length]; exact grows.length_le, ?_⟩
  intro plugin member
  rw [loaded] at member
  rcases grows.added plugin member with old | ⟨isNew, handle, found, begun⟩
  · exact .inl old
  · obtain ⟨later, laterFound, ages⟩ := after.shutdownAll_ages found
    exact .inr ⟨isNew, later, laterFound, ages.not_created begun⟩

theorem load (grows : before.Grows after) (offer : Offer) :
    before.Grows (after.load offer.manifest offer.source offer.dataDir).manager := by
  cases after.load_cases offer.manifest offer.source offer.dataDir with
  | refused _ outcome =>
      rw [outcome]
      exact grows
  | failed _ _ _ outcome =>
      rw [outcome]
      exact grows.construct _
  | @admitted plugin _ _ _ outcome =>
      rw [outcome]
      have constructed :=
        grows.construct (after.newHandle offer.manifest offer.dataDir plugin (.ok ()))
      refine ⟨constructed.length_le, ?_⟩
      intro loaded member
      rcases List.mem_append.mp member with earlier | now
      · exact constructed.added loaded earlier
      · obtain rfl := List.mem_singleton.mp now
        refine .inr ⟨grows.length_le, _, List.getElem?_concat_length, ?_⟩
        intro created
        cases created

theorem step (grows : before.Grows after) {request : ManagerRequest} (single : request.IsStep) :
    before.Grows (after.perform request).manager := by
  cases after.perform_cases single with
  | checked _ outcome => rwa [outcome]
  | unreadable _ outcome => rwa [outcome]
  | stopped _ outcome =>
      rw [outcome]
      exact grows.shutdownAll
  | @offered offer _ offers _ _ =>
      rw [after.perform_of_offer offers]
      exact grows.load offer

theorem perform (manager : PluginManager) (request : ManagerRequest) :
    manager.Grows (manager.perform request).manager := by
  rw [← (manager.run_steps request).1]
  exact run_induction (motive := fun after _ => manager.Grows after) [] (refl manager)
    request.steps fun _ _ _ member grows =>
      grows.step (ManagerRequest.isStep_of_mem_steps member)

end PluginManager.Grows

namespace HostState

/-- What is true of a host at any time. -/
structure Consistent (state : HostState) : Prop where
  initialising : ∀ number context, (number, context) ∈ state.initialising →
    ∃ handle, state.handles[number]? = some handle ∧ handle.state = .stopped
  owned : ∀ name tool, state.registry.find? name = some tool → tool.OwnedIn state.handles
  loaded : ∀ plugin ∈ state.manager.loaded, ∃ handle,
    state.Settled plugin.instanceNumber handle

theorem consistent_new (rules : AdmissionRules) : (new rules).Consistent := by
  constructor
  · intro number context running
    cases running
  · intro name tool found
    cases found
  · intro plugin member
    cases member

variable {state : HostState}

theorem initialising_step (consistent : state.Consistent) (event : HostEvent) {number : Nat}
    {context : PluginContext} (running : (number, context) ∈ (state.step event).initialising) :
    ∃ handle, (state.step event).handles[number]? = some handle ∧ handle.state = .stopped := by
  rcases state.mem_initialising_step running with ⟨earlier, notEnded⟩ | ⟨taken, -, -, now⟩
  · obtain ⟨handle, found, stopped⟩ := consistent.initialising number context earlier
    obtain ⟨later, laterFound, outcome⟩ := state.step_instance event found
    refine ⟨later, laterFound, ?_⟩
    cases outcome with
    | unchanged => exact stopped
    | begun _ _ => rfl
    | ended event_eq _ => exact (notEnded event_eq).elim
    | stopped _ _ => rfl
  · exact ⟨taken.stop, now, rfl⟩

/-- A tool that is registered after an event was registered before, or its owner is there. -/
theorem find?_step (event : HostEvent) {name : String} {tool : RegisteredTool}
    (found : (state.step event).registry.find? name = some tool) :
    state.registry.find? name = some tool ∨ tool.OwnedIn state.handles := by
  cases event with
  | fill =>
      rcases find?_registerEach found with none | ⟨owned, -⟩
      · cases none
      · exact .inr owned
  | registerPlugin number =>
      rcases ToolRegistry.find?_perform found with old | ⟨submission, member, yields⟩
      · exact .inl old
      · obtain ⟨number_eq, ownerFound⟩ := RegistryRequest.found_of_mem_submissions member
        rw [← number_eq] at ownerFound
        exact .inr (yields.ownedIn ownerFound)
  | registerFunction owner function =>
      rw [step] at found
      split at found
      · exact .inl found
      · rename_i handle ownerFound
        rcases ToolRegistry.find?_perform found with old | ⟨submission, member, yields⟩
        · exact .inl old
        · obtain rfl := List.mem_singleton.mp member
          exact .inr (yields.ownedIn ownerFound)
  | beginInit number context =>
      rw [step, beginInit] at found
      split at found <;> exact .inl found
  | _ => exact .inl found

theorem id_eq_of_instanceStep {event : HostEvent} {number : Nat} {handle later : PluginHandle}
    (outcome : InstanceStep state event number handle later) : later.id = handle.id := by
  cases outcome with
  | @ended context _ _ =>
      cases (handle.plugin.init context).result handle.id "init" <;> rfl
  | _ => rfl

theorem ownedIn_step (event : HostEvent) {tool : RegisteredTool}
    (owned : tool.OwnedIn state.handles) : tool.OwnedIn (state.step event).handles := by
  obtain ⟨handle, found, id_eq⟩ := owned
  obtain ⟨later, laterFound, outcome⟩ := state.step_instance event found
  exact ⟨later, laterFound, (id_eq_of_instanceStep outcome).trans id_eq⟩

/-- A plugin that is loaded after an event was loaded before, or the event has loaded it. -/
theorem loaded_step (event : HostEvent) {plugin : LoadedPlugin}
    (member : plugin ∈ (state.step event).manager.loaded) :
    plugin ∈ state.manager.loaded ∨ ∃ request, event = .manage request := by
  cases event with
  | manage request => exact .inr ⟨request, rfl⟩
  | beginInit number context =>
      rw [step, beginInit] at member
      split at member <;> exact .inl member
  | registerFunction owner function =>
      rw [step] at member
      split at member <;> exact .inl member
  | _ => exact .inl member

theorem Consistent.step (consistent : state.Consistent) (event : HostEvent) :
    (state.step event).Consistent := by
  constructor
  case initialising =>
    intro number context running
    exact initialising_step consistent event running
  case owned =>
    intro name tool found
    rcases find?_step event found with old | owned
    · exact ownedIn_step event (consistent.owned name tool old)
    · exact ownedIn_step event owned
  case loaded =>
    intro plugin member
    have settled : plugin ∈ state.manager.loaded →
        ∃ handle, (state.step event).Settled plugin.instanceNumber handle := by
      intro old
      obtain ⟨handle, settled⟩ := consistent.loaded plugin old
      obtain ⟨later, laterSettled, -⟩ := settled.step event
      exact ⟨later, laterSettled⟩
    rcases loaded_step event member with old | ⟨request, rfl⟩
    · exact settled old
    · rcases (PluginManager.Grows.perform state.manager request).added plugin member with
        old | ⟨isNew, handle, found, begun⟩
      · exact settled old
      · refine ⟨handle, found, begun, ?_⟩
        intro context running
        -- What is running is an instance that was there before.
        obtain ⟨other, otherFound, -⟩ := consistent.initialising _ context running
        have within := (List.getElem?_eq_some_iff.mp otherFound).1
        exact Nat.not_lt_of_le isNew within

theorem Consistent.run (consistent : state.Consistent) (events : List HostEvent) :
    (state.run events).Consistent := by
  induction events generalizing state with
  | nil => exact consistent
  | cons event events ih => exact ih (consistent.step event)

/-- The state that events lead to from the start. -/
def reached (rules : AdmissionRules) (events : List HostEvent) : HostState :=
  (new rules).run events

theorem reached_append (rules : AdmissionRules) (earlier later : List HostEvent) :
    reached rules (earlier ++ later) = (reached rules earlier).run later :=
  List.foldl_append

theorem consistent_reached (rules : AdmissionRules) (events : List HostEvent) :
    (reached rules events).Consistent :=
  (consistent_new rules).run events

/-! ### What follows from a shutdown -/

theorem Consistent.settled_of_active (consistent : state.Consistent) {number : Nat}
    {handle : PluginHandle} (found : state.handles[number]? = some handle)
    (active : handle.isActive = true) : state.Settled number handle := by
  refine ⟨found, ?_, ?_⟩
  · intro created
    simp [PluginHandle.isActive, created] at active
  · intro context running
    obtain ⟨other, otherFound, stopped⟩ := consistent.initialising number context running
    obtain rfl : other = handle := Option.some.inj (otherFound.symm.trans found)
    simp [PluginHandle.isActive, stopped] at active

/-- The tools of a settled instance that is not active are unavailable from then on. -/
theorem Settled.prepare_run {number : Nat} {handle : PluginHandle}
    (settled : state.Settled number handle) (inactive : handle.isActive = false)
    (consistent : state.Consistent) (events : List HostEvent) {name : String}
    {tool : RegisteredTool}
    (registered : (state.run events).registry.find? name = some tool)
    (owner : tool.owner = number) (args : Json) :
    (state.run events).registry.prepare (state.run events).handles name args =
      .error (.pluginUnavailable handle.id) := by
  subst owner
  have found := settled.run_of_not_active inactive events
  obtain ⟨own, ownFound, id_eq⟩ := (consistent.run events).owned name tool registered
  obtain rfl : own = handle := Option.some.inj (ownFound.symm.trans found)
  rw [id_eq]
  apply ToolRegistry.prepare_of_refusal
  exact .unavailable registered ((Handles.isActive_of_found found).trans inactive)

/-- Every tool belongs to the instance of a loaded plugin. -/
def FilledFromLoaded (state : HostState) : Prop :=
  ∀ name tool, state.registry.find? name = some tool →
    ∃ plugin ∈ state.manager.loaded, plugin.instanceNumber = tool.owner

theorem filledFromLoaded_fill (state : HostState) : (state.step .fill).FilledFromLoaded := by
  intro name tool found
  rcases find?_registerEach found with none | ⟨-, fromLoaded⟩
  · cases none
  · exact fromLoaded

end HostState

/-- Whether an event is a load of the manager. -/
def HostEvent.IsLoad : HostEvent → Prop
  | .manage request => request.IsLoad
  | _ => False

/-- Whether an event shuts a loaded plugin down, by itself or together with all others. -/
def HostEvent.Stops (event : HostEvent) (number : Nat) : Prop :=
  event = .shutdown number ∨ event = .manage .shutdownAll

namespace HostState

variable {state : HostState}

theorem loaded_step_of_not_load {event : HostEvent} (noLoad : ¬ event.IsLoad) :
    (state.step event).manager.loaded = state.manager.loaded := by
  cases event with
  | manage request =>
      cases request with
      | evaluate manifest => rfl
      | shutdownAll => exact state.manager.shutdownAll_frame.2.1
      | _ => exact (noLoad trivial).elim
  | beginInit number context =>
      rw [step, beginInit]
      split <;> rfl
  | registerFunction owner function =>
      rw [step]
      split <;> rfl
  | _ => rfl

theorem loaded_run_of_no_load {events : List HostEvent}
    (noLoad : ∀ event ∈ events, ¬ event.IsLoad) :
    (state.run events).manager.loaded = state.manager.loaded := by
  induction events generalizing state with
  | nil => rfl
  | cons event events ih =>
      have first : (state.step event).manager.loaded = state.manager.loaded :=
        loaded_step_of_not_load (noLoad event List.mem_cons_self)
      have rest : ((state.step event).run events).manager.loaded =
          (state.step event).manager.loaded :=
        ih fun later member => noLoad later (List.mem_cons_of_mem _ member)
      exact rest.trans first

theorem isActive_step_of_stops {event : HostEvent} {plugin : LoadedPlugin}
    (loaded : plugin ∈ state.manager.loaded) (stops : event.Stops plugin.instanceNumber) :
    (state.step event).handles.isActive plugin.instanceNumber = false := by
  rcases stops with rfl | rfl
  · exact Handles.isActive_shutdown state.handles plugin.instanceNumber
  · exact isActive_shutdownEach (.inr ⟨plugin, loaded, rfl⟩)

/-- A loaded plugin that is shut down while nothing is loaded has an instance that stays as the
shutdown has left it. -/
theorem exists_settled_of_stops (consistent : state.Consistent) {events : List HostEvent}
    (noLoad : ∀ event ∈ events, ¬ event.IsLoad) {plugin : LoadedPlugin}
    (loaded : plugin ∈ state.manager.loaded)
    (stopped : ∃ event ∈ events, event.Stops plugin.instanceNumber) :
    ∃ handle, (state.run events).Settled plugin.instanceNumber handle ∧
      handle.isActive = false := by
  obtain ⟨event, member, stops⟩ := stopped
  obtain ⟨front, back, rfl⟩ := List.append_of_mem member
  -- The instance is followed up to the shutdown, through it, and to the end.
  obtain ⟨handle, settled⟩ := consistent.loaded plugin loaded
  obtain ⟨before, beforeSettled, -⟩ := settled.run front
  obtain ⟨after, afterSettled, -⟩ := beforeSettled.step event
  obtain ⟨last, lastSettled, ages⟩ := afterSettled.run back
  have stillLoaded : plugin ∈ (state.run front).manager.loaded := by
    rw [loaded_run_of_no_load fun earlier among => noLoad earlier (List.mem_append_left _ among)]
    exact loaded
  have inactive := isActive_step_of_stops stillLoaded stops
  rw [Handles.isActive_of_found afterSettled.found] at inactive
  obtain rfl := ages.eq_of_not_active inactive
  have course : state.run (front ++ event :: back) =
      ((state.run front).step event).run back :=
    List.foldl_append
  rw [course]
  exact ⟨last, lastSettled, inactive⟩

end HostState

/-- What shutdowns mean for tools, after any events. -/
structure FinalShutdowns (rules : AdmissionRules) (events : List HostEvent) : Prop where
  /-- A call is put to a handler only while the owner of its tool is active. -/
  started_active : ∀ earlier event later call, events = earlier ++ event :: later →
    call ∈ (reached rules earlier).started event →
      (reached rules earlier).handles.isActive call.tool.owner = true
  /-- A shutdown takes an instance out of its active state, and nothing else does. -/
  shutdown_stops : ∀ earlier later number, events = earlier ++ .shutdown number :: later →
    (reached rules (earlier ++ [.shutdown number])).handles.isActive number = false
  stops_of_stopped : ∀ earlier event later number, events = earlier ++ event :: later →
    (reached rules earlier).handles.isActive number = true →
    (reached rules (earlier ++ [event])).handles.isActive number = false →
      event.Stops number
  /-- After that every tool of the instance is unavailable, whatever has happened since. -/
  unavailable : ∀ earlier event later number handle, events = earlier ++ event :: later →
    (reached rules earlier).handles[number]? = some handle →
    handle.isActive = true →
    (reached rules (earlier ++ [event])).handles.isActive number = false →
      ∀ name tool args, (reached rules events).registry.find? name = some tool →
        tool.owner = number →
          (reached rules events).registry.prepare
            (reached rules events).handles name args =
              .error (.pluginUnavailable handle.id)
  filled : (reached rules (events ++ [.fill])).FilledFromLoaded
  /-- When every loaded plugin has been shut down and nothing was loaded since, the tools of a
  registry that is filled from the loaded plugins are unavailable. -/
  after_shutdownAll : ∀ earlier later, events = earlier ++ later →
    (∀ event ∈ later, ¬ event.IsLoad) →
    (∀ plugin ∈ (reached rules earlier).manager.loaded,
      ∃ event ∈ later, event.Stops plugin.instanceNumber) →
    (reached rules events).FilledFromLoaded →
      ∀ name args,
        ((reached rules events).registry.find? name = none →
          (reached rules events).registry.prepare
            (reached rules events).handles name args =
              .error (.toolNotFound name)) ∧
        ∀ tool, (reached rules events).registry.find? name = some tool →
          ∃ handle, (reached rules events).handles[tool.owner]? = some handle ∧
            (reached rules events).registry.prepare
              (reached rules events).handles name args =
                .error (.pluginUnavailable handle.id)

/-- Whatever happens to a host, no call reaches a tool whose owner is not active, and a shutdown
is final for all tools of its instance. -/
theorem run_finalShutdowns (rules : AdmissionRules) (events : List HostEvent) :
    FinalShutdowns rules events := by
  have consistent := HostState.consistent_reached rules
  constructor
  case started_active =>
    rintro earlier event later call - member
    exact (HostState.preparedBy_of_mem_started _ member).active
  case shutdown_stops =>
    rintro earlier later number -
    rw [HostState.reached_append]
    exact Handles.isActive_shutdown _ number
  case stops_of_stopped =>
    rintro earlier event later number - active inactive
    obtain ⟨handle, context, found, current⟩ := (Handles.isActive_eq_true_iff _ _).mp active
    rw [Handles.isActive_of_found found] at active
    obtain ⟨after, afterFound, outcome⟩ := HostState.step_instance _ event found
    rw [HostState.reached_append] at inactive
    have inactive : after.isActive = false :=
      (Handles.isActive_of_found afterFound).symm.trans inactive
    cases outcome with
    | unchanged =>
        rw [active] at inactive
        cases inactive
    | begun _ created =>
        rw [current] at created
        cases created
    | ended _ running =>
        -- The hook of an active instance is not running, so this event cannot be its end.
        have settled := (consistent earlier).settled_of_active found active
        exact (settled.ended _ running).elim
    | stopped event_eq _ => exact event_eq
  case unavailable =>
    rintro earlier event later number handle rfl found active inactive name tool args
      registered owner
    have settled := (consistent earlier).settled_of_active found active
    obtain ⟨after, afterSettled, ages⟩ := settled.step event
    rw [HostState.reached_append] at inactive
    have inactive : after.isActive = false :=
      (Handles.isActive_of_found afterSettled.found).symm.trans inactive
    rw [HostState.reached_append] at registered ⊢
    rw [← ages.id_eq]
    exact afterSettled.prepare_run inactive ((consistent earlier).step event) later registered
      owner args
  case filled =>
    rw [HostState.reached_append]
    exact HostState.filledFromLoaded_fill _
  case after_shutdownAll =>
    rintro earlier later rfl noLoad stopped fromLoaded name args
    constructor
    · intro unregistered
      exact ToolRegistry.prepare_of_refusal (.notFound unregistered)
    · intro tool registered
      obtain ⟨plugin, loaded, owner⟩ := fromLoaded name tool registered
      rw [HostState.reached_append] at loaded registered ⊢
      rw [HostState.loaded_run_of_no_load noLoad] at loaded
      obtain ⟨handle, settled, inactive⟩ := HostState.exists_settled_of_stops
        (consistent earlier) noLoad loaded (stopped plugin loaded)
      refine ⟨handle, owner ▸ settled.found, ?_⟩
      have answer := settled.prepare_run inactive ((consistent earlier).run later) []
        registered owner.symm args
      exact answer

end PluginHost
