import PluginHost.Proofs.Admission.Gates

/-!
# Runs of the plugin manager

A run is a sequence of requests to a manager, each answered in the state that the earlier ones
left.  Scanning a directory is the same as loading its bundles one after the other, so that a
run can be taken apart into single steps, none of which loads more than one manifest.
-/

namespace PluginHost

/-- What can be asked of a manager. -/
inductive ManagerRequest where
  | evaluate (manifest : Manifest)
  | loadBuiltin (manifest : Manifest)
  | loadBundle (files : FileView) (bundle : PluginBundle)
  | loadDirectory (files : FileView) (directory : String)
  | shutdownAll

/-- What a manager answers. -/
inductive ManagerAnswer where
  | evaluated (verdict : Except AdmissionError Unit)
  | loaded (result : Except AdmissionError LoadedPlugin)
  /-- The number of bundles of a directory that were admitted. -/
  | scanned (admitted : Nat)
  /-- The number of `shutdown` hooks that failed. -/
  | shutDown (failures : Nat)

/-- The plugin that an answer says was loaded. -/
def ManagerAnswer.admitted? : ManagerAnswer → Option LoadedPlugin
  | .loaded (.ok plugin) => some plugin
  | _ => none

@[simp]
theorem ManagerAnswer.admitted?_ok (plugin : LoadedPlugin) :
    (ManagerAnswer.loaded (.ok plugin)).admitted? = some plugin :=
  rfl

@[simp]
theorem ManagerAnswer.admitted?_error (error : AdmissionError) :
    (ManagerAnswer.loaded (.error error)).admitted? = none :=
  rfl

/-- A manifest that is put before a manager. -/
structure Offer where
  manifest : Manifest
  source : PluginSource
  dataDir : Option String

namespace ManagerRequest

/-- The manifest that a request puts before the manager: that of a compiled-in plugin, or that
of a bundle if it can be read. -/
def offer? : ManagerRequest → Option Offer
  | .loadBuiltin manifest => some ⟨manifest, .builtin, none⟩
  | .loadBundle files bundle =>
    match bundle.manifest files with
    | .ok manifest => some ⟨manifest, .bundle bundle.path, bundle.dataDirectory?⟩
    | .error _ => none
  | _ => none

/-- A request as single steps: scanning a directory is loading its bundles in order. -/
def steps : ManagerRequest → List ManagerRequest
  | .loadDirectory files directory =>
    match PluginBundle.discover files directory with
    | .ok bundles => bundles.map (.loadBundle files)
    | .error _ => []
  | request => [request]

/-- Whether a request is a single step. -/
def IsStep : ManagerRequest → Prop
  | .loadDirectory _ _ => False
  | _ => True

/-- Whether a request is to load something. -/
def IsLoad : ManagerRequest → Prop
  | .loadBuiltin _ | .loadBundle _ _ | .loadDirectory _ _ => True
  | .evaluate _ | .shutdownAll => False

theorem isStep_of_mem_steps {request step : ManagerRequest} (member : step ∈ request.steps) :
    step.IsStep := by
  cases request with
  | loadDirectory files directory =>
      rw [steps] at member
      split at member
      · obtain ⟨bundle, _, rfl⟩ := List.mem_map.mp member
        trivial
      · simp at member
  | _ =>
      obtain rfl := List.mem_singleton.mp member
      trivial

theorem isStep_of_mem_flatMap_steps {requests : List ManagerRequest} {step : ManagerRequest}
    (member : step ∈ requests.flatMap steps) : step.IsStep := by
  obtain ⟨request, _, within⟩ := List.mem_flatMap.mp member
  exact isStep_of_mem_steps within

theorem isLoad_of_mem_steps {request step : ManagerRequest} (load : request.IsLoad)
    (member : step ∈ request.steps) : step.IsLoad := by
  cases request with
  | loadDirectory files directory =>
      rw [steps] at member
      split at member
      · obtain ⟨bundle, _, rfl⟩ := List.mem_map.mp member
        trivial
      · simp at member
  | _ =>
      obtain rfl := List.mem_singleton.mp member
      exact load

end ManagerRequest

/-- The same operation with its result put in another form. -/
def Managed.map {α β : Type} (form : α → β) (managed : Managed α) : Managed β :=
  ⟨managed.manager, managed.calls, managed.warnings, form managed.result⟩

namespace PluginManager

/-- Answers one request. -/
def perform (manager : PluginManager) : ManagerRequest → Managed ManagerAnswer
  | .evaluate manifest => ⟨manager, [], [], .evaluated (manager.evaluate manifest)⟩
  | .loadBuiltin manifest => (manager.loadBuiltin manifest).map .loaded
  | .loadBundle files bundle => (manager.loadBundle files bundle).map .loaded
  | .loadDirectory files directory => (manager.loadDirectory files directory).map .scanned
  | .shutdownAll => manager.shutdownAll.map .shutDown

/-- Answers requests one after the other. -/
def run (manager : PluginManager) : List ManagerRequest → Managed (List ManagerAnswer)
  | [] => ⟨manager, [], [], []⟩
  | request :: rest =>
    let first := manager.perform request
    let later := first.manager.run rest
    ⟨later.manager, first.calls ++ later.calls, first.warnings ++ later.warnings,
      first.result :: later.result⟩

theorem run_append (manager : PluginManager) (earlier later : List ManagerRequest) :
    manager.run (earlier ++ later) =
      let front := manager.run earlier
      let back := front.manager.run later
      ⟨back.manager, front.calls ++ back.calls, front.warnings ++ back.warnings,
        front.result ++ back.result⟩ := by
  induction earlier generalizing manager with
  | nil => simp [run]
  | cons request earlier ih => simp [run, ih, List.append_assoc]

/-- What holds at the start and is kept by every answer holds after a run. -/
theorem run_induction {motive : PluginManager → List HookCall → Prop}
    {manager : PluginManager} (calls : List HookCall) (start : motive manager calls)
    (requests : List ManagerRequest)
    (kept : ∀ manager calls, ∀ request ∈ requests, motive manager calls →
      motive (manager.perform request).manager (calls ++ (manager.perform request).calls)) :
    motive (manager.run requests).manager (calls ++ (manager.run requests).calls) := by
  induction requests generalizing manager calls with
  | nil => simpa [run] using start
  | cons request requests ih =>
      have first := kept manager calls request (by simp) start
      simpa [run, List.append_assoc] using
        ih _ first fun manager calls later member =>
          kept manager calls later (by simp [member])

/-- Every call in a run is made by one of its requests, in the state that the requests before
it left. -/
theorem exists_request_of_calls_eq {manager : PluginManager} {requests : List ManagerRequest}
    {before after : List HookCall} {call : HookCall}
    (calls : (manager.run requests).calls = before ++ call :: after) :
    ∃ earlier request later front back,
      requests = earlier ++ request :: later ∧
      before = (manager.run earlier).calls ++ front ∧
      ((manager.run earlier).manager.perform request).calls = front ++ call :: back ∧
      after = back ++
        (((manager.run earlier).manager.perform request).manager.run later).calls := by
  induction requests generalizing manager before with
  | nil => simp [run] at calls
  | cons request requests ih =>
      -- The call lies in the rest of the run, or else in what the first request calls.
      have inRest : ∀ front,
          ((manager.perform request).manager.run requests).calls = front ++ call :: after →
          before = (manager.perform request).calls ++ front →
          ∃ earlier chosen later front back,
            request :: requests = earlier ++ chosen :: later ∧
            before = (manager.run earlier).calls ++ front ∧
            ((manager.run earlier).manager.perform chosen).calls = front ++ call :: back ∧
            after = back ++
              (((manager.run earlier).manager.perform chosen).manager.run later).calls := by
        intro front restCalls beforeEq
        obtain ⟨earlier, chosen, later, inner, back, rfl, rfl, chosenCalls, afterEq⟩ :=
          ih restCalls
        exact ⟨request :: earlier, chosen, later, inner, back, rfl,
          by simp [run, beforeEq, List.append_assoc], chosenCalls, afterEq⟩
      rw [run] at calls
      rcases List.append_eq_append_iff.mp calls with
        ⟨front, beforeEq, restCalls⟩ | ⟨back, firstCalls, tailEq⟩
      · exact inRest front restCalls beforeEq
      · rcases List.cons_eq_append_iff.mp tailEq with ⟨rfl, restCalls⟩ | ⟨back, rfl, afterEq⟩
        · exact inRest [] restCalls (by simpa using firstCalls.symm)
        · exact ⟨[], request, requests, before, back, rfl, by simp [run], firstCalls, afterEq⟩

/-! ### Single steps -/

theorem perform_of_offer (manager : PluginManager) {request : ManagerRequest} {offer : Offer}
    (offers : request.offer? = some offer) :
    manager.perform request =
      (manager.load offer.manifest offer.source offer.dataDir).map .loaded := by
  cases request with
  | loadBuiltin manifest =>
      cases offers
      rfl
  | loadBundle files bundle =>
      cases read : bundle.manifest files with
      | error error => simp [ManagerRequest.offer?, read] at offers
      | ok manifest =>
          simp only [ManagerRequest.offer?, read, Option.some.injEq] at offers
          subst offer
          simp [perform, loadBundle, read]
  | _ => cases offers

/-- What can come of a single step: a manifest is only checked, that of a bundle cannot be read, one
is put before the manager to be loaded, or the loaded plugins are shut down. -/
inductive StepCase (manager : PluginManager) (request : ManagerRequest)
    (outcome : Managed ManagerAnswer) : Prop where
  | checked {manifest : Manifest} (noOffer : request.offer? = none)
      (outcome_eq : outcome =
        ⟨manager, [], [], .evaluated (manager.evaluate manifest)⟩)
  | unreadable {error : HostError} (noOffer : request.offer? = none)
      (outcome_eq : outcome = ⟨manager, [], [], .loaded (.error (.manifest error))⟩)
  | offered {offer : Offer} {loading : Managed (Except AdmissionError LoadedPlugin)}
      (offers : request.offer? = some offer)
      (loadCase : manager.LoadCase offer.manifest offer.source offer.dataDir loading)
      (outcome_eq : outcome = loading.map .loaded)
  | stopped (noOffer : request.offer? = none)
      (outcome_eq : outcome = manager.shutdownAll.map .shutDown)

theorem perform_cases (manager : PluginManager) {request : ManagerRequest}
    (single : request.IsStep) : manager.StepCase request (manager.perform request) := by
  cases offers : request.offer? with
  | some offer =>
      exact .offered offers (manager.load_cases offer.manifest offer.source offer.dataDir)
        (manager.perform_of_offer offers)
  | none =>
      cases request with
      | evaluate manifest => exact .checked offers rfl
      | loadBuiltin manifest => cases offers
      | loadBundle files bundle =>
          cases read : bundle.manifest files with
          | error error =>
              have outcome : manager.perform (.loadBundle files bundle) =
                  ⟨manager, [], [], .loaded (.error (.manifest error))⟩ := by
                simp [perform, loadBundle, read, refused, Managed.map]
              exact .unreadable offers outcome
          | ok manifest => simp [ManagerRequest.offer?, read] at offers
      | loadDirectory files directory => exact single.elim
      | shutdownAll => exact .stopped offers rfl

/-- What holds at the start and is kept by every single shutdown holds after shutting plugins
down one after the other. -/
theorem shutdownEach_induction {motive : PluginManager → List HookCall → Prop}
    (plugins : List LoadedPlugin) {done : Managed Nat} (start : motive done.manager done.calls)
    (kept : ∀ manager calls, ∀ plugin ∈ plugins, motive manager calls →
      motive
        { manager with
          handles := (Handles.shutdown manager.handles plugin.instanceNumber).handles }
        (calls ++ (Handles.shutdown manager.handles plugin.instanceNumber).calls)) :
    motive (shutdownEach plugins done).manager (shutdownEach plugins done).calls := by
  induction plugins generalizing done with
  | nil => exact start
  | cons plugin plugins ih =>
      have first := kept done.manager done.calls plugin (by simp) start
      rw [shutdownEach]
      refine ih ?_ fun manager calls later member =>
        kept manager calls later (by simp [member])
      split <;> exact first

/-! ### Directories, bundle by bundle -/

/-- The warning about a bundle that was not admitted. -/
def skipNotes (bundle : PluginBundle) : ManagerAnswer → List HostWarning
  | .loaded (.error error) => [.bundleSkipped bundle.path error.message]
  | _ => []

theorem loadBundle_warnings (files : FileView) (manager : PluginManager)
    (bundle : PluginBundle) : (manager.loadBundle files bundle).warnings = [] := by
  rw [loadBundle]
  split
  · rfl
  · rename_i manifest _
    cases manager.load_cases manifest (.bundle bundle.path) bundle.dataDirectory? with
    | refused _ outcome =>
        rw [outcome]
        rfl
    | failed _ _ _ outcome => rw [outcome]
    | admitted _ _ _ outcome => rw [outcome]

/-- Loading bundles is running the loads of the single bundles: what is admitted is counted and
what is not is noted with its error. -/
theorem loadBundles_eq_run (files : FileView) (bundles : List PluginBundle)
    (done : Managed Nat) :
    loadBundles files bundles done =
      let loads := done.manager.run (bundles.map (.loadBundle files))
      ⟨loads.manager, done.calls ++ loads.calls,
        done.warnings ++ (List.zipWith skipNotes bundles loads.result).flatten,
        done.result + (loads.result.filterMap ManagerAnswer.admitted?).length⟩ := by
  induction bundles generalizing done with
  | nil => simp [loadBundles, run]
  | cons bundle bundles ih =>
      rw [loadBundles, ih]
      cases result : (done.manager.loadBundle files bundle).result with
      | error error =>
          simp [run, perform, Managed.map, result, loadBundle_warnings, skipNotes,
            List.filterMap_cons, List.append_assoc]
      | ok plugin =>
          simp [run, perform, Managed.map, result, loadBundle_warnings, skipNotes,
            List.append_assoc]
          omega

theorem run_steps (manager : PluginManager) (request : ManagerRequest) :
    (manager.run request.steps).manager = (manager.perform request).manager ∧
      (manager.run request.steps).calls = (manager.perform request).calls := by
  cases request with
  | loadDirectory files directory =>
      cases found : PluginBundle.discover files directory with
      | error problem =>
          simp [ManagerRequest.steps, perform, loadDirectory, found, run, Managed.map]
      | ok bundles =>
          simp [ManagerRequest.steps, perform, loadDirectory, found, loadBundles_eq_run,
            Managed.map]
  | _ => simp [ManagerRequest.steps, run]

/-- A run and its single steps lead to the same manager with the same calls. -/
theorem run_flatMap_steps (manager : PluginManager) (requests : List ManagerRequest) :
    (manager.run (requests.flatMap ManagerRequest.steps)).manager =
        (manager.run requests).manager ∧
      (manager.run (requests.flatMap ManagerRequest.steps)).calls =
        (manager.run requests).calls := by
  induction requests generalizing manager with
  | nil => simp [run]
  | cons request requests ih =>
      obtain ⟨sameManager, sameCalls⟩ := manager.run_steps request
      obtain ⟨restManager, restCalls⟩ := ih (manager.perform request).manager
      simp [List.flatMap_cons, run_append, run, sameManager, sameCalls, restManager, restCalls]

end PluginManager

end PluginHost
