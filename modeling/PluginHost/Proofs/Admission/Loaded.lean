import PluginHost.Proofs.Admission.Calls

/-!
# What a manager has loaded

The loaded plugins of a manager have ids of their own, have passed every gate, and each of them
has an instance that was initialised with success and is active until it is shut down.  Loads
only append to them.  A load that is answered with an error leaves them as they are, so that
nothing remains of it in any later verdict.
-/

namespace PluginHost

namespace PluginManager

/-- The instance of a loaded plugin after some calls of plugin code: its `init` succeeded in a
context, and it is active in this context until its `shutdown` is called. -/
structure HasInstance (manager : PluginManager) (calls : List HookCall) (plugin : LoadedPlugin)
    (handle : PluginHandle) (context : PluginContext) : Prop where
  found : manager.handles[plugin.instanceNumber]? = some handle
  id_eq : handle.id = plugin.manifest.id
  called : HookCall.init plugin.instanceNumber context ∈ calls
  succeeded : handle.plugin.init context = .succeeded
  active : HookCall.shutdown plugin.instanceNumber ∉ calls → handle.state = .active context
  stopped : HookCall.shutdown plugin.instanceNumber ∈ calls → handle.state = .stopped

/-- The invariant of the loaded plugins, after some calls of plugin code. -/
structure Sound (manager : PluginManager) (calls : List HookCall) : Prop where
  distinct : manager.loadedIds.Nodup
  fit : ∀ plugin ∈ manager.loaded,
    plugin.manifest.resolve manager.rules.versions = .ok ()
  allowed : ∀ plugin ∈ manager.loaded,
    manager.rules.policy.enforce plugin.manifest.id plugin.manifest.capabilities = .ok ()
  constructible : ∀ plugin ∈ manager.loaded,
    manager.rules.factories.contains plugin.manifest.implementation = true
  instances : ∀ plugin ∈ manager.loaded, ∃ handle context,
    manager.HasInstance calls plugin handle context
  bounded : ∀ call ∈ calls, call.number < manager.handles.length

theorem sound_new (rules : AdmissionRules) : (new rules).Sound [] := by
  constructor <;> simp [new, loadedIds]

variable {manager : PluginManager} {calls : List HookCall}

/-- Constructing another instance does not touch the instances of loaded plugins. -/
theorem HasInstance.append {plugin : LoadedPlugin} {handle : PluginHandle}
    {context : PluginContext} (kept : manager.HasInstance calls plugin handle context)
    (manifest : Manifest) (dataDir : Option String) (other : PluginHandle)
    (loaded : List LoadedPlugin) :
    HasInstance ⟨manager.rules, manager.handles ++ [other], loaded⟩
      (calls ++ manager.constructionCalls manifest dataDir) plugin handle context where
  found := by
    have within := (List.getElem?_eq_some_iff.mp kept.found).1
    rw [List.getElem?_append_left within, kept.found]
  id_eq := kept.id_eq
  called := List.mem_append_left _ kept.called
  succeeded := kept.succeeded
  active := by
    intro notCalled
    exact kept.active fun called => notCalled (List.mem_append_left _ called)
  stopped := by
    intro called
    exact kept.stopped (by simpa [constructionCalls] using called)

/-- A load that constructs an instance without loading its plugin keeps the invariant. -/
theorem Sound.failed (sound : manager.Sound calls) (manifest : Manifest)
    (dataDir : Option String) (other : PluginHandle) :
    Sound { manager with handles := manager.handles ++ [other] }
      (calls ++ manager.constructionCalls manifest dataDir) where
  distinct := sound.distinct
  fit := sound.fit
  allowed := sound.allowed
  constructible := sound.constructible
  instances plugin member := by
    obtain ⟨handle, context, kept⟩ := sound.instances plugin member
    exact ⟨handle, context, kept.append manifest dataDir other manager.loaded⟩
  bounded call called := by
    rw [List.length_append, List.length_singleton]
    rcases List.mem_append.mp called with earlier | now
    · exact Nat.lt_succ_of_lt (sound.bounded call earlier)
    · simp only [constructionCalls, List.mem_cons, List.not_mem_nil, or_false] at now
      rcases now with rfl | rfl <;> exact Nat.lt_succ_self _

theorem forall_mem_loaded {accepts : LoadedPlugin → Prop} {loaded : List LoadedPlugin}
    {new : LoadedPlugin} (old : ∀ plugin ∈ loaded, accepts plugin) (accepted : accepts new) :
    ∀ plugin ∈ loaded ++ [new], accepts plugin := by
  rw [List.forall_mem_append]
  exact ⟨old, by simpa using accepted⟩

/-- A load of an admissible manifest whose instance is initialised keeps the invariant. -/
theorem Sound.admitted (sound : manager.Sound calls) {manifest : Manifest}
    (admissible : manager.Admissible manifest) (source : PluginSource)
    (dataDir : Option String) {plugin : Plugin}
    (succeeded : plugin.init (manager.rules.contextOf manifest.id dataDir) = .succeeded) :
    Sound
      { manager with
        handles := manager.handles ++ [manager.newHandle manifest dataDir plugin (.ok ())]
        loaded := manager.loaded ++ [⟨manifest, source, manager.handles.length⟩] }
      (calls ++ manager.constructionCalls manifest dataDir) where
  distinct := by
    have newId := admissible.newId
    have distinct := sound.distinct
    rw [loadedIds] at newId distinct ⊢
    rw [List.map_append, List.nodup_append]
    refine ⟨distinct, by simp, ?_⟩
    intro old member new among
    obtain rfl := List.mem_singleton.mp among
    rintro rfl
    exact newId member
  fit := forall_mem_loaded sound.fit admissible.fits
  allowed := forall_mem_loaded sound.allowed admissible.allowed
  constructible := forall_mem_loaded sound.constructible admissible.constructible
  instances := by
    intro loaded member
    rcases List.mem_append.mp member with old | new
    · obtain ⟨handle, context, kept⟩ := sound.instances loaded old
      exact ⟨handle, context, kept.append manifest dataDir _ _⟩
    · obtain rfl := List.mem_singleton.mp new
      have notCalled : HookCall.shutdown manager.handles.length ∉
          calls ++ manager.constructionCalls manifest dataDir := by
        intro called
        rcases List.mem_append.mp called with earlier | now
        · exact Nat.lt_irrefl _ (sound.bounded _ earlier)
        · simp [constructionCalls] at now
      exact ⟨manager.newHandle manifest dataDir plugin (.ok ()),
        manager.rules.contextOf manifest.id dataDir,
        { found := by simp
          id_eq := rfl
          called := by simp [constructionCalls]
          succeeded := succeeded
          active := fun _ => rfl
          stopped := fun called => (notCalled called).elim }⟩
  bounded := (sound.failed manifest dataDir _).bounded

/-- A single shutdown keeps the invariant. -/
theorem Sound.shutdown (sound : manager.Sound calls) (number : Nat) :
    Sound { manager with handles := (Handles.shutdown manager.handles number).handles }
      (calls ++ (Handles.shutdown manager.handles number).calls) := by
  cases activeNow : manager.handles.isActive number with
  | false => simpa [Handles.shutdown_of_not_active activeNow] using sound
  | true =>
      obtain ⟨taken, inContext, taken_eq, state⟩ :=
        (manager.handles.isActive_eq_true_iff number).mp activeNow
      rw [Handles.shutdown_of_active taken_eq state]
      have within := (List.getElem?_eq_some_iff.mp taken_eq).1
      refine ⟨sound.distinct, sound.fit, sound.allowed, sound.constructible, ?_, ?_⟩
      · intro plugin member
        obtain ⟨handle, context, kept⟩ := sound.instances plugin member
        by_cases same : number = plugin.instanceNumber
        · subst number
          obtain rfl : taken = handle := Option.some.inj (taken_eq.symm.trans kept.found)
          exact ⟨taken.stop, context,
            { found := List.getElem?_set_self within
              id_eq := kept.id_eq
              called := List.mem_append_left _ kept.called
              succeeded := kept.succeeded
              active := fun notCalled => (notCalled (by simp)).elim
              stopped := fun _ => rfl }⟩
        · exact ⟨handle, context,
            { found := by rw [List.getElem?_set_ne same, kept.found]
              id_eq := kept.id_eq
              called := List.mem_append_left _ kept.called
              succeeded := kept.succeeded
              active := fun notCalled =>
                kept.active fun called => notCalled (List.mem_append_left _ called)
              stopped := fun called =>
                kept.stopped (by simpa [Ne.symm same] using called) }⟩
      · intro call called
        rw [List.length_set]
        rcases List.mem_append.mp called with earlier | now
        · exact sound.bounded call earlier
        · obtain rfl := List.mem_singleton.mp now
          exact within

/-- Every step keeps the invariant. -/
theorem Sound.perform (sound : manager.Sound calls) {request : ManagerRequest}
    (single : request.IsStep) :
    (manager.perform request).manager.Sound (calls ++ (manager.perform request).calls) := by
  cases manager.perform_cases single with
  | checked _ outcome => simpa [outcome] using sound
  | unreadable _ outcome => simpa [outcome] using sound
  | stopped _ outcome =>
      rw [outcome]
      refine shutdownEach_induction
        (motive := fun after more => after.Sound (calls ++ more))
        manager.loaded (by simpa using sound) ?_
      intro after more plugin _ kept
      simpa [List.append_assoc] using kept.shutdown plugin.instanceNumber
  | offered _ loadCase outcome =>
      rw [outcome]
      cases loadCase with
      | refused _ loading => simpa [loading, refused, Managed.map] using sound
      | failed _ _ _ loading => simpa [loading, Managed.map] using sound.failed _ _ _
      | admitted admissible _ succeeded loading =>
          simpa [loading, Managed.map] using sound.admitted admissible _ _ succeeded

/-- The invariant holds in every state of every run. -/
theorem sound_run (rules : AdmissionRules) (requests : List ManagerRequest) :
    ((new rules).run requests).manager.Sound ((new rules).run requests).calls := by
  have kept := run_induction (motive := Sound) [] (sound_new rules)
    (requests.flatMap ManagerRequest.steps) fun _ _ _ member sound =>
      sound.perform (ManagerRequest.isStep_of_mem_flatMap_steps member)
  obtain ⟨sameManager, sameCalls⟩ := (new rules).run_flatMap_steps requests
  simpa [sameManager, sameCalls] using kept

/-! ### What loads change -/

/-- A load that is a single step appends its instance and its plugin, if it comes to any. -/
theorem perform_eq_append (manager : PluginManager) {request : ManagerRequest}
    (single : request.IsStep) (load : request.IsLoad) :
    ∃ handles loaded,
      (manager.perform request).manager =
        ⟨manager.rules, manager.handles ++ handles, manager.loaded ++ loaded⟩ := by
  have unchanged : manager =
      ⟨manager.rules, manager.handles ++ [], manager.loaded ++ []⟩ := by
    simp
  cases offers : request.offer? with
  | none =>
      refine ⟨[], [], ?_⟩
      rw [← unchanged]
      cases manager.perform_cases single with
      | checked _ outcome => rw [outcome]
      | unreadable _ outcome => rw [outcome]
      | offered some => simp [offers] at some
      | stopped _ outcome =>
          cases request with
          | loadBundle files bundle =>
              have answer := congrArg Managed.result outcome
              simp [perform, Managed.map] at answer
          | loadBuiltin manifest => cases offers
          | loadDirectory files directory => exact single.elim
          | evaluate manifest => exact load.elim
          | shutdownAll => exact load.elim
  | some offer =>
      rw [manager.perform_of_offer offers]
      cases manager.load_cases offer.manifest offer.source offer.dataDir with
      | refused _ loading => exact ⟨[], [], by rw [loading, ← unchanged]; rfl⟩
      | failed _ _ _ loading => exact ⟨[_], [], by rw [loading, List.append_nil]; rfl⟩
      | admitted _ _ _ loading => exact ⟨[_], [_], by rw [loading]; rfl⟩

/-- Loads only append: what was loaded stays in its place, and so does every instance. -/
theorem load_appends (manager : PluginManager) {request : ManagerRequest}
    (load : request.IsLoad) :
    ∃ handles loaded,
      (manager.perform request).manager =
        ⟨manager.rules, manager.handles ++ handles, manager.loaded ++ loaded⟩ := by
  rw [← (manager.run_steps request).1]
  refine run_induction
    (motive := fun after _ => ∃ handles loaded,
      after = ⟨manager.rules, manager.handles ++ handles, manager.loaded ++ loaded⟩)
    [] ⟨[], [], by simp⟩ request.steps ?_
  rintro _ _ step member ⟨handles, loaded, rfl⟩
  obtain ⟨moreHandles, moreLoaded, grown⟩ :=
    perform_eq_append ⟨manager.rules, manager.handles ++ handles, manager.loaded ++ loaded⟩
      (ManagerRequest.isStep_of_mem_steps member)
      (ManagerRequest.isLoad_of_mem_steps load member)
  exact ⟨handles ++ moreHandles, loaded ++ moreLoaded, by
    simpa [List.append_assoc] using grown⟩

/-- A step loads exactly the plugin that its answer says was loaded. -/
theorem perform_loaded (manager : PluginManager) {request : ManagerRequest}
    (single : request.IsStep) :
    (manager.perform request).manager.loaded =
      manager.loaded ++ (manager.perform request).result.admitted?.toList := by
  cases manager.perform_cases single with
  | checked _ outcome => simp [outcome, ManagerAnswer.admitted?]
  | unreadable _ outcome => simp [outcome]
  | stopped _ outcome =>
      rw [outcome]
      simpa [Managed.map, ManagerAnswer.admitted?] using manager.shutdownAll_frame.2.1
  | offered _ loadCase outcome =>
      rw [outcome]
      cases loadCase with
      | refused _ loading => simp [loading, refused, Managed.map]
      | failed _ _ _ loading => simp [loading, Managed.map]
      | admitted _ _ _ loading => simp [loading, Managed.map]

/-- A load that is answered with an error leaves the loaded plugins and every verdict as they
are. -/
theorem perform_of_load_error (manager : PluginManager) {request : ManagerRequest}
    {error : AdmissionError}
    (failed : (manager.perform request).result = .loaded (.error error)) :
    (manager.perform request).manager.loaded = manager.loaded ∧
      ∀ manifest, (manager.perform request).manager.evaluate manifest =
        manager.evaluate manifest := by
  have single : request.IsStep := by
    cases request with
    | loadDirectory files directory => simp [perform, Managed.map] at failed
    | _ => trivial
  have loaded := manager.perform_loaded single
  rw [failed, ManagerAnswer.admitted?_error, Option.toList_none, List.append_nil] at loaded
  have rules := (manager.perform_follows single).rules
  have ids : (manager.perform request).manager.loadedIds = manager.loadedIds := by
    rw [loadedIds, loaded, loadedIds]
  exact ⟨loaded, fun manifest => evaluate_congr rules ids manifest⟩

/-- Single steps load exactly the plugins that their answers say were loaded, in order. -/
theorem run_loaded (manager : PluginManager) {requests : List ManagerRequest}
    (single : ∀ request ∈ requests, request.IsStep) :
    (manager.run requests).manager.loaded =
      manager.loaded ++ (manager.run requests).result.filterMap ManagerAnswer.admitted? := by
  induction requests generalizing manager with
  | nil => simp [run]
  | cons request requests ih =>
      have first := manager.perform_loaded (single request (by simp))
      have rest := ih (manager.perform request).manager fun later member =>
        single later (by simp [member])
      rw [run]
      simp only [rest, first, List.filterMap_cons]
      cases (manager.perform request).result.admitted? <;> simp

theorem run_rules (rules : AdmissionRules) (requests : List ManagerRequest) :
    ((new rules).run requests).manager.rules = rules := by
  rw [← ((new rules).run_flatMap_steps requests).1]
  exact ((new rules).run_follows fun _ member =>
    ManagerRequest.isStep_of_mem_flatMap_steps member).rules

/-- The plugins that the single steps of a run were answered to have loaded, in order. -/
def admittedIn (rules : AdmissionRules) (requests : List ManagerRequest) : List LoadedPlugin :=
  ((new rules).run (requests.flatMap ManagerRequest.steps)).result.filterMap
    ManagerAnswer.admitted?

theorem loaded_run (rules : AdmissionRules) (requests : List ManagerRequest) :
    ((new rules).run requests).manager.loaded = admittedIn rules requests := by
  rw [← ((new rules).run_flatMap_steps requests).1, run_loaded]
  · rfl
  · exact fun _ member => ManagerRequest.isStep_of_mem_flatMap_steps member

end PluginManager

/-- What is true of the loaded plugins after a run of a manager. -/
structure LoadedPlugins (rules : AdmissionRules) (requests : List ManagerRequest)
    (state : Managed (List ManagerAnswer)) : Prop where
  /-- No two of them have the same id. -/
  distinct : state.manager.loadedIds.Nodup
  /-- Each of them has passed every gate. -/
  accepted : ∀ plugin ∈ state.manager.loaded,
    plugin.manifest.resolve rules.versions = .ok () ∧
      rules.policy.enforce plugin.manifest.id plugin.manifest.capabilities = .ok () ∧
      rules.factories.contains plugin.manifest.implementation = true
  /-- Each of them was initialised with success and is active until it is shut down. -/
  instances : ∀ plugin ∈ state.manager.loaded, ∃ handle context,
    state.manager.handles[plugin.instanceNumber]? = some handle ∧
      handle.id = plugin.manifest.id ∧
      HookCall.init plugin.instanceNumber context ∈ state.calls ∧
      handle.plugin.init context = .succeeded ∧
      (HookCall.shutdown plugin.instanceNumber ∉ state.calls → handle.state = .active context) ∧
      (HookCall.shutdown plugin.instanceNumber ∈ state.calls → handle.state = .stopped)
  /-- They are the plugins of the loads that succeeded, in order. -/
  history : state.manager.loaded = PluginManager.admittedIn rules requests
  /-- Any further load appends to them and to the instances and changes nothing else. -/
  appends : ∀ request : ManagerRequest, request.IsLoad → ∃ handles loaded,
    (state.manager.perform request).manager =
      ⟨rules, state.manager.handles ++ handles, state.manager.loaded ++ loaded⟩
  /-- A further load that is answered with an error leaves them as they are, and every verdict
  too. -/
  atomic : ∀ (request : ManagerRequest) (error : AdmissionError),
    (state.manager.perform request).result = .loaded (.error error) →
    (state.manager.perform request).manager.loaded = state.manager.loaded ∧
      ∀ manifest, (state.manager.perform request).manager.evaluate manifest =
        state.manager.evaluate manifest
  /-- Of any run only the ids that it loaded count for a verdict. -/
  verdicts : ∀ others : List ManagerRequest,
    (PluginManager.admittedIn rules others).map (fun plugin => plugin.manifest.id) =
      (PluginManager.admittedIn rules requests).map (fun plugin => plugin.manifest.id) →
    ∀ manifest, ((PluginManager.new rules).run others).manager.evaluate manifest =
      state.manager.evaluate manifest

/-- Whatever is asked of a manager, its loaded plugins are distinct, admitted and initialised,
and failed loads leave no trace among them. -/
theorem run_loadedPlugins (rules : AdmissionRules) (requests : List ManagerRequest) :
    LoadedPlugins rules requests ((PluginManager.new rules).run requests) := by
  have sound := PluginManager.sound_run rules requests
  have sameRules := PluginManager.run_rules rules requests
  have history := PluginManager.loaded_run rules requests
  refine ⟨sound.distinct, ?_, ?_, history, ?_, ?_, ?_⟩
  · intro plugin member
    have fit := sound.fit plugin member
    have allowed := sound.allowed plugin member
    have constructible := sound.constructible plugin member
    rw [sameRules] at fit allowed constructible
    exact ⟨fit, allowed, constructible⟩
  · intro plugin member
    obtain ⟨handle, context, own⟩ := sound.instances plugin member
    exact ⟨handle, context, own.found, own.id_eq, own.called, own.succeeded, own.active,
      own.stopped⟩
  · intro request load
    obtain ⟨handles, loaded, grown⟩ :=
      ((PluginManager.new rules).run requests).manager.load_appends load
    exact ⟨handles, loaded, by rw [grown, sameRules]⟩
  · intro request error failed
    exact ((PluginManager.new rules).run requests).manager.perform_of_load_error failed
  · intro others sameIds manifest
    refine PluginManager.evaluate_congr ?_ ?_ manifest
    · rw [PluginManager.run_rules, sameRules]
    · rw [PluginManager.loadedIds, PluginManager.loadedIds, PluginManager.loaded_run, history,
        sameIds]

end PluginHost
