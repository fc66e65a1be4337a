import PluginHost.Proofs.Host.Events

/-!
# Shutting a manager down

Shutting a manager down is a loop over its loaded plugins.  As they have instances of their own,
what the loop does to one plugin depends only on the instance as the loop found it, and failures
on the way do not matter to the plugins that follow.  So the hooks that run, their order and the
number of failures can all be read off the state before the loop.
-/

namespace PluginHost

/-- Whether a hook failed or panicked. -/
def HookOutcome.isFailure : HookOutcome → Bool
  | succeeded => false
  | failed _ => true
  | panicked _ => true

/-- The instance whose `shutdown` hook is called. -/
def HookCall.shutdownNumber? : HookCall → Option Nat
  | shutdown number => some number
  | _ => none

namespace Handles

/-- How the `shutdown` hook of an instance ends; none if the instance is not active, so that the
hook is not run. -/
def shutdownOutcome? (handles : Handles) (number : Nat) : Option HookOutcome :=
  match handles[number]? with
  | none => none
  | some handle =>
    match handle.state with
    | .active context => some (handle.plugin.shutdown context)
    | _ => none

theorem shutdownOutcome?_of_active {handles : Handles} {number : Nat} {handle : PluginHandle}
    {context : PluginContext} (found : handles[number]? = some handle)
    (active : handle.state = .active context) :
    handles.shutdownOutcome? number = some (handle.plugin.shutdown context) := by
  simp only [shutdownOutcome?, found, active]

theorem shutdownOutcome?_of_not_active {handles : Handles} {number : Nat}
    (inactive : handles.isActive number = false) : handles.shutdownOutcome? number = none := by
  rw [shutdownOutcome?]
  cases found : handles[number]? with
  | none => rfl
  | some handle =>
      rw [isActive_of_found found] at inactive
      cases state : handle.state with
      | active context => simp [PluginHandle.isActive, state] at inactive
      | created => simp only [state]
      | stopped => simp only [state]

theorem isActive_eq_isSome_shutdownOutcome? (handles : Handles) (number : Nat) :
    handles.isActive number = (handles.shutdownOutcome? number).isSome := by
  cases active : handles.isActive number with
  | false => rw [shutdownOutcome?_of_not_active active, Option.isSome_none]
  | true =>
      obtain ⟨handle, context, found, state⟩ := (handles.isActive_eq_true_iff number).mp active
      rw [shutdownOutcome?_of_active found state, Option.isSome_some]

theorem getElem?_shutdown_of_ne (handles : Handles) {number other : Nat}
    (apart : number ≠ other) :
    (shutdown handles number).handles[other]? = handles[other]? := by
  cases active : handles.isActive number with
  | false => rw [shutdown_of_not_active active]
  | true =>
      obtain ⟨handle, context, found, state⟩ := (handles.isActive_eq_true_iff number).mp active
      rw [shutdown_of_active found state, List.getElem?_set_ne apart]

theorem isActive_shutdown_of_ne (handles : Handles) {number other : Nat}
    (apart : number ≠ other) :
    (shutdown handles number).handles.isActive other = handles.isActive other := by
  rw [isActive, isActive, handles.getElem?_shutdown_of_ne apart]

theorem shutdownOutcome?_shutdown_of_ne (handles : Handles) {number other : Nat}
    (apart : number ≠ other) :
    (shutdown handles number).handles.shutdownOutcome? other =
      handles.shutdownOutcome? other := by
  rw [shutdownOutcome?, shutdownOutcome?, handles.getElem?_shutdown_of_ne apart]

/-- The plugins whose instances are active, in order. -/
def activeAmong (handles : Handles) (plugins : List LoadedPlugin) : List LoadedPlugin :=
  plugins.filter fun plugin => handles.isActive plugin.instanceNumber

/-- How the `shutdown` hooks of those plugins end that are active, in order. -/
def outcomesAmong (handles : Handles) (plugins : List LoadedPlugin) : List HookOutcome :=
  plugins.filterMap fun plugin => handles.shutdownOutcome? plugin.instanceNumber

variable {handles : Handles} {plugin : LoadedPlugin} (plugins : List LoadedPlugin)

theorem among_cons_of_none (runsNot : handles.shutdownOutcome? plugin.instanceNumber = none) :
    handles.activeAmong (plugin :: plugins) = handles.activeAmong plugins ∧
      handles.outcomesAmong (plugin :: plugins) = handles.outcomesAmong plugins := by
  constructor
  · apply List.filter_cons_of_neg
    simp [isActive_eq_isSome_shutdownOutcome?, runsNot]
  · exact List.filterMap_cons_none runsNot

theorem among_cons_of_some {outcome : HookOutcome}
    (runs : handles.shutdownOutcome? plugin.instanceNumber = some outcome) :
    handles.activeAmong (plugin :: plugins) = plugin :: handles.activeAmong plugins ∧
      handles.outcomesAmong (plugin :: plugins) = outcome :: handles.outcomesAmong plugins := by
  constructor
  · apply List.filter_cons_of_pos
    simp [isActive_eq_isSome_shutdownOutcome?, runs]
  · exact List.filterMap_cons_some runs

theorem among_shutdown (before : Handles) {number : Nat}
    (apart : number ∉ plugins.map LoadedPlugin.instanceNumber) :
    (shutdown before number).handles.activeAmong plugins = before.activeAmong plugins ∧
      (shutdown before number).handles.outcomesAmong plugins =
        before.outcomesAmong plugins := by
  have ne_of_mem : ∀ other ∈ plugins, number ≠ other.instanceNumber := by
    rintro other member rfl
    exact apart (List.mem_map_of_mem member)
  constructor
  · apply List.filter_congr
    intro other member
    exact before.isActive_shutdown_of_ne (ne_of_mem other member)
  · apply List.filterMap_congr
    intro other member
    exact before.shutdownOutcome?_shutdown_of_ne (ne_of_mem other member)

end Handles

namespace PluginManager

/-! ### One round over the plugins -/

theorem shutdownEach_cons_of_none (plugins : List LoadedPlugin) {plugin : LoadedPlugin}
    {done : Managed Nat}
    (runsNot : done.manager.handles.shutdownOutcome? plugin.instanceNumber = none) :
    shutdownEach (plugin :: plugins) done = shutdownEach plugins done := by
  have inactive : done.manager.handles.isActive plugin.instanceNumber = false := by
    rw [Handles.isActive_eq_isSome_shutdownOutcome?, runsNot, Option.isSome_none]
  rw [shutdownEach, Handles.shutdown_of_not_active inactive]
  simp only [List.append_nil]

theorem shutdownEach_cons_of_some (plugins : List LoadedPlugin) {plugin : LoadedPlugin}
    {done : Managed Nat} {outcome : HookOutcome}
    (runs : done.manager.handles.shutdownOutcome? plugin.instanceNumber = some outcome) :
    ∃ warnings,
      shutdownEach (plugin :: plugins) done =
        shutdownEach plugins
          ⟨{ done.manager with
              handles :=
                (Handles.shutdown done.manager.handles plugin.instanceNumber).handles },
            done.calls ++ [.shutdown plugin.instanceNumber], warnings,
            done.result + [outcome].countP HookOutcome.isFailure⟩ := by
  cases active : done.manager.handles.isActive plugin.instanceNumber with
  | false =>
      rw [Handles.shutdownOutcome?_of_not_active active] at runs
      cases runs
  | true =>
      obtain ⟨handle, context, found, state⟩ :=
        (Handles.isActive_eq_true_iff _ _).mp active
      rw [Handles.shutdownOutcome?_of_active found state] at runs
      obtain rfl := Option.some.inj runs
      rw [shutdownEach, Handles.shutdown_of_active found state]
      cases ended : handle.plugin.shutdown context with
      | succeeded => exact ⟨done.warnings, rfl⟩
      | failed error => exact ⟨_, rfl⟩
      | panicked payload => exact ⟨_, rfl⟩

/-- Plugins with instances of their own are shut down as if each were the only one. -/
theorem shutdownEach_eq (plugins : List LoadedPlugin) (done : Managed Nat)
    (distinct : (plugins.map LoadedPlugin.instanceNumber).Nodup) :
    (shutdownEach plugins done).calls =
        done.calls ++ (done.manager.handles.activeAmong plugins).map (fun plugin =>
          HookCall.shutdown plugin.instanceNumber) ∧
      (shutdownEach plugins done).result =
        done.result +
          (done.manager.handles.outcomesAmong plugins).countP HookOutcome.isFailure := by
  induction plugins generalizing done with
  | nil => exact ⟨(List.append_nil _).symm, rfl⟩
  | cons plugin plugins ih =>
      obtain ⟨own, rest⟩ := List.nodup_cons.mp distinct
      cases runs : done.manager.handles.shutdownOutcome? plugin.instanceNumber with
      | none =>
          obtain ⟨active, outcomes⟩ := Handles.among_cons_of_none plugins runs
          rw [shutdownEach_cons_of_none plugins runs, active, outcomes]
          exact ih done rest
      | some outcome =>
          obtain ⟨active, outcomes⟩ := Handles.among_cons_of_some plugins runs
          obtain ⟨sameActive, sameOutcomes⟩ :=
            Handles.among_shutdown plugins done.manager.handles own
          obtain ⟨warnings, first⟩ := shutdownEach_cons_of_some plugins runs
          obtain ⟨calls, result⟩ := ih _ rest
          rw [first, calls, result, active, outcomes]
          dsimp only
          rw [sameActive, sameOutcomes]
          refine ⟨by simp [List.append_assoc], ?_⟩
          rw [List.countP_singleton, List.countP_cons]
          omega

/-! ### Instances of loaded plugins -/

/-- The loaded plugins have instances of their own. -/
structure Apart (manager : PluginManager) : Prop where
  distinct : (manager.loaded.map LoadedPlugin.instanceNumber).Nodup
  bounded : ∀ plugin ∈ manager.loaded, plugin.instanceNumber < manager.handles.length

theorem apart_new (rules : AdmissionRules) : (new rules).Apart := by
  constructor <;> simp [new]

theorem Apart.step {manager : PluginManager} (apart : manager.Apart) {request : ManagerRequest}
    (single : request.IsStep) : (manager.perform request).manager.Apart := by
  cases manager.perform_cases single with
  | checked _ outcome => rwa [outcome]
  | unreadable _ outcome => rwa [outcome]
  | stopped _ outcome =>
      obtain ⟨-, loaded, length, -⟩ := manager.shutdownAll_frame
      rw [outcome]
      refine ⟨?_, ?_⟩
      · show (manager.shutdownAll.manager.loaded.map _).Nodup
        rw [loaded]
        exact apart.distinct
      · show ∀ plugin ∈ manager.shutdownAll.manager.loaded, _ <
          manager.shutdownAll.manager.handles.length
        rw [loaded, length]
        exact apart.bounded
  | @offered offer _ offers _ _ =>
      rw [manager.perform_of_offer offers]
      cases manager.load_cases offer.manifest offer.source offer.dataDir with
      | refused _ loading => rwa [loading]
      | failed _ _ _ loading =>
          rw [loading]
          refine ⟨apart.distinct, ?_⟩
          intro plugin member
          have bounded := apart.bounded plugin member
          simp only [Managed.map, List.length_append, List.length_singleton]
          omega
      | admitted _ _ _ loading =>
          rw [loading]
          refine ⟨?_, ?_⟩
          · -- The number of the new instance is above all others.
            simp only [Managed.map, List.map_append, List.map_cons, List.map_nil]
            refine List.nodup_append.mpr ⟨apart.distinct, by simp, ?_⟩
            intro number old other new
            obtain ⟨plugin, member, rfl⟩ := List.mem_map.mp old
            obtain rfl := List.mem_singleton.mp new
            exact Nat.ne_of_lt (apart.bounded plugin member)
          · simp only [Managed.map, List.length_append, List.length_singleton]
            refine forall_mem_loaded ?_ (Nat.lt_succ_self _)
            intro plugin member
            exact Nat.lt_succ_of_lt (apart.bounded plugin member)

theorem apart_run (rules : AdmissionRules) (requests : List ManagerRequest) :
    ((new rules).run requests).manager.Apart := by
  rw [← ((new rules).run_flatMap_steps requests).1]
  refine run_induction (motive := fun manager _ => manager.Apart) []
    (apart_new rules) _ ?_
  intro manager _ step member apart
  exact apart.step (ManagerRequest.isStep_of_mem_flatMap_steps member)

/-! ### The whole run -/

/-- No `shutdown` hook is called twice. -/
def ShutsDownOnce (calls : List HookCall) : Prop :=
  (calls.filterMap HookCall.shutdownNumber?).Nodup

theorem mem_shutdownNumbers_iff {calls : List HookCall} {number : Nat} :
    number ∈ calls.filterMap HookCall.shutdownNumber? ↔ HookCall.shutdown number ∈ calls := by
  rw [List.mem_filterMap]
  constructor
  · rintro ⟨call, member, isShutdown⟩
    cases call with
    | shutdown other =>
        obtain rfl := Option.some.inj isShutdown
        exact member
    | _ => cases isShutdown
  · intro member
    exact ⟨_, member, rfl⟩

/-- A single shutdown of a loaded plugin calls no hook that was called before. -/
theorem shutsDownOnce_shutdown {manager : PluginManager} {calls : List HookCall}
    (sound : manager.Sound calls) (once : ShutsDownOnce calls) {plugin : LoadedPlugin}
    (loaded : plugin ∈ manager.loaded) :
    ShutsDownOnce (calls ++ (Handles.shutdown manager.handles plugin.instanceNumber).calls) := by
  cases active : manager.handles.isActive plugin.instanceNumber with
  | false =>
      rw [Handles.shutdown_of_not_active active, List.append_nil]
      exact once
  | true =>
      obtain ⟨handle, context, found, state⟩ := (Handles.isActive_eq_true_iff _ _).mp active
      obtain ⟨own, _, kept⟩ := sound.instances plugin loaded
      obtain rfl : handle = own := Option.some.inj (found.symm.trans kept.found)
      have notCalled : HookCall.shutdown plugin.instanceNumber ∉ calls := by
        intro called
        have stopped := kept.stopped called
        rw [state] at stopped
        cases stopped
      rw [Handles.shutdown_of_active found state, ShutsDownOnce, List.filterMap_append]
      refine List.nodup_append.mpr ⟨once, by simp [HookCall.shutdownNumber?], ?_⟩
      intro number earlier other now
      have earlier := mem_shutdownNumbers_iff.mp earlier
      obtain rfl := List.mem_singleton.mp now
      rintro rfl
      exact notCalled earlier

theorem shutsDownOnce_step {manager : PluginManager} {calls : List HookCall}
    (sound : manager.Sound calls) (once : ShutsDownOnce calls) {request : ManagerRequest}
    (single : request.IsStep) : ShutsDownOnce (calls ++ (manager.perform request).calls) := by
  cases offers : request.offer? with
  | some offer =>
      -- A load calls no `shutdown` hook.
      have quiet : (manager.perform request).calls.filterMap HookCall.shutdownNumber? = [] := by
        rcases manager.perform_calls_of_offer offers with ⟨-, made⟩ | ⟨-, made⟩ <;>
          rw [made] <;> rfl
      rwa [ShutsDownOnce, List.filterMap_append, quiet, List.append_nil]
  | none =>
      cases manager.perform_cases single with
      | checked _ outcome => simpa [outcome] using once
      | unreadable _ outcome => simpa [outcome] using once
      | offered some => simp [offers] at some
      | stopped _ outcome =>
          rw [outcome]
          have kept : manager.shutdownAll.manager.loaded = manager.loaded ∧
              manager.shutdownAll.manager.Sound (calls ++ manager.shutdownAll.calls) ∧
                ShutsDownOnce (calls ++ manager.shutdownAll.calls) := by
            refine shutdownEach_induction
              (motive := fun after more => after.loaded = manager.loaded ∧
                after.Sound (calls ++ more) ∧ ShutsDownOnce (calls ++ more))
              manager.loaded ⟨rfl, by simpa using sound, by simpa using once⟩ ?_
            rintro after more plugin member ⟨loaded, soundAfter, onceAfter⟩
            refine ⟨loaded, ?_, ?_⟩
            · simpa [List.append_assoc] using soundAfter.shutdown plugin.instanceNumber
            · simpa [List.append_assoc] using
                shutsDownOnce_shutdown soundAfter onceAfter (loaded.symm ▸ member)
          exact kept.2.2

theorem shutsDownOnce_run (rules : AdmissionRules) (requests : List ManagerRequest) :
    ShutsDownOnce ((new rules).run requests).calls := by
  rw [← ((new rules).run_flatMap_steps requests).2]
  have kept := run_induction
    (motive := fun manager calls => manager.Sound calls ∧ ShutsDownOnce calls) []
    ⟨sound_new rules, List.nodup_nil⟩ (requests.flatMap ManagerRequest.steps) ?_
  · exact kept.2
  · rintro manager calls step member ⟨sound, once⟩
    have single := ManagerRequest.isStep_of_mem_flatMap_steps member
    exact ⟨sound.perform single, shutsDownOnce_step sound once single⟩

/-! ### Without loads nothing is left to do -/

/-- No loaded plugin is active. -/
def Closed (manager : PluginManager) : Prop :=
  ∀ plugin ∈ manager.loaded, manager.handles.isActive plugin.instanceNumber = false

theorem closed_shutdownAll (manager : PluginManager) : manager.shutdownAll.manager.Closed := by
  intro plugin member
  rw [manager.shutdownAll_frame.2.1] at member
  exact isActive_shutdownEach (.inr ⟨plugin, member, rfl⟩)

theorem Closed.run {manager : PluginManager} (closed : manager.Closed)
    {requests : List ManagerRequest} (noLoad : ∀ request ∈ requests, ¬ request.IsLoad) :
    (manager.run requests).manager.Closed := by
  refine run_induction (motive := fun after _ => after.Closed) [] closed requests ?_
  intro after _ request member closedAfter
  cases request with
  | evaluate manifest => exact closedAfter
  | shutdownAll => exact after.closed_shutdownAll
  | _ => exact (noLoad _ member trivial).elim

theorem shutdownEach_of_not_active (plugins : List LoadedPlugin) (done : Managed Nat)
    (inactive : ∀ plugin ∈ plugins,
      done.manager.handles.isActive plugin.instanceNumber = false) :
    shutdownEach plugins done = done := by
  induction plugins with
  | nil => rfl
  | cons plugin plugins ih =>
      have first := inactive plugin List.mem_cons_self
      rw [shutdownEach_cons_of_none plugins (Handles.shutdownOutcome?_of_not_active first)]
      exact ih fun other member => inactive other (List.mem_cons_of_mem _ member)

theorem Closed.shutdownAll_eq {manager : PluginManager} (closed : manager.Closed) :
    manager.shutdownAll = ⟨manager, [], [], 0⟩ :=
  shutdownEach_of_not_active manager.loaded ⟨manager, [], [], 0⟩ closed

end PluginManager

/-- What shutting a manager down means after a run. -/
structure OrderlyShutdowns (state : Managed (List ManagerAnswer)) : Prop where
  /-- The hooks of the active plugins are called, once each and in load order. -/
  hooks : state.manager.shutdownAll.calls =
    (state.manager.loaded.filter fun plugin =>
      state.manager.handles.isActive plugin.instanceNumber).map fun plugin =>
        HookCall.shutdown plugin.instanceNumber
  /-- Those that fail or panic are counted. -/
  failures : state.manager.shutdownAll.result =
    (state.manager.loaded.filterMap fun plugin =>
      state.manager.handles.shutdownOutcome? plugin.instanceNumber).countP HookOutcome.isFailure
  /-- Afterwards the same plugins are loaded and each of them is stopped. -/
  loaded : state.manager.shutdownAll.manager.loaded = state.manager.loaded
  stopped : ∀ plugin ∈ state.manager.loaded,
    state.manager.shutdownAll.manager.stateOf plugin = some .stopped
  /-- Unless something is loaded, another shutdown finds nothing to do. -/
  repeated : ∀ between : List ManagerRequest, (∀ request ∈ between, ¬ request.IsLoad) →
    (state.manager.shutdownAll.manager.run between).manager.shutdownAll.calls = [] ∧
      (state.manager.shutdownAll.manager.run between).manager.shutdownAll.result = 0
  /-- In the whole run no hook has been called twice. -/
  once : (state.calls.filterMap HookCall.shutdownNumber?).Nodup

/-- After any requests a manager is shut down completely and in load order, and no plugin is ever
shut down twice. -/
theorem run_orderlyShutdowns (rules : AdmissionRules) (requests : List ManagerRequest) :
    OrderlyShutdowns ((PluginManager.new rules).run requests) := by
  have apart := PluginManager.apart_run rules requests
  have sound := PluginManager.sound_run rules requests
  have once := PluginManager.shutsDownOnce_run rules requests
  generalize (PluginManager.new rules).run requests = state at apart sound once ⊢
  obtain ⟨-, loaded, -, -⟩ := state.manager.shutdownAll_frame
  have closed := state.manager.closed_shutdownAll
  obtain ⟨calls, result⟩ :=
    PluginManager.shutdownEach_eq state.manager.loaded ⟨state.manager, [], [], 0⟩ apart.distinct
  constructor
  case hooks =>
    rw [PluginManager.shutdownAll, calls]
    rfl
  case failures =>
    rw [PluginManager.shutdownAll, result]
    exact Nat.zero_add _
  case loaded => exact loaded
  case stopped =>
    intro plugin member
    have member : plugin ∈ state.manager.shutdownAll.manager.loaded := by rwa [loaded]
    -- After the shutdown an instance is active or stopped, and none is active.
    have soundAfter := sound.perform (show ManagerRequest.shutdownAll.IsStep from trivial)
    obtain ⟨handle, context, own⟩ := soundAfter.instances plugin member
    have found : state.manager.shutdownAll.manager.handles[plugin.instanceNumber]? =
        some handle := own.found
    have inactive := closed plugin member
    rw [Handles.isActive_of_found found] at inactive
    rw [PluginManager.stateOf, found, Option.map_some]
    by_cases called : HookCall.shutdown plugin.instanceNumber ∈
        state.calls ++ (state.manager.perform .shutdownAll).calls
    · rw [own.stopped called]
    · simp [PluginHandle.isActive, own.active called] at inactive
  case repeated =>
    intro between noLoad
    rw [(closed.run noLoad).shutdownAll_eq]
    exact ⟨rfl, rfl⟩
  case once => exact once

end PluginHost
