import PluginHost.Proofs.Admission.Loaded

/-!
# What loaded plugins run

The instance of a loaded plugin was made by the constructor of the implementation that its
manifest names, and is active in the context that the rules give to its id.  This holds of any
manager that has only loaded: no load touches what an earlier one made.
-/

namespace PluginHost

namespace PluginManager

/-- The instance of a loaded plugin, made by the constructor of its implementation and active in
the context of its own id. -/
structure Runs (manager : PluginManager) (loaded : LoadedPlugin) (made : Plugin)
    (dataDir : Option String) : Prop where
  constructed : manager.rules.factories.construct? loaded.manifest.implementation
    loaded.instanceNumber = some made
  succeeded : made.init (manager.rules.contextOf loaded.manifest.id dataDir) = .succeeded
  found : manager.handles[loaded.instanceNumber]? =
    some ⟨loaded.manifest.id, made,
      .active (manager.rules.contextOf loaded.manifest.id dataDir)⟩

/-- A manager whose loaded plugins all run. -/
def AllRun (manager : PluginManager) : Prop :=
  ∀ loaded ∈ manager.loaded, ∃ made dataDir, manager.Runs loaded made dataDir

theorem allRun_new (rules : AdmissionRules) : (new rules).AllRun :=
  fun _ member => absurd member List.not_mem_nil

variable {manager : PluginManager}

/-- Constructing another instance does not touch the ones that are there. -/
theorem Runs.append {loaded : LoadedPlugin} {made : Plugin} {dataDir : Option String}
    (runs : manager.Runs loaded made dataDir) (other : PluginHandle)
    (plugins : List LoadedPlugin) :
    Runs ⟨manager.rules, manager.handles ++ [other], plugins⟩ loaded made dataDir where
  constructed := runs.constructed
  succeeded := runs.succeeded
  found := by
    have within := (List.getElem?_eq_some_iff.mp runs.found).1
    rw [List.getElem?_append_left within]
    exact runs.found

/-- A load keeps the rules, and the plugins run as they did; the one that it adds runs too. -/
theorem AllRun.load (allRun : manager.AllRun) (manifest : Manifest) (source : PluginSource)
    (dataDir : Option String) :
    (manager.load manifest source dataDir).manager.rules = manager.rules ∧
      (manager.load manifest source dataDir).manager.AllRun := by
  cases manager.load_cases manifest source dataDir with
  | refused _ outcome =>
      rw [outcome]
      exact ⟨rfl, allRun⟩
  | failed _ _ _ outcome =>
      rw [outcome]
      refine ⟨rfl, fun loaded member => ?_⟩
      obtain ⟨made, directory, runs⟩ := allRun loaded member
      exact ⟨made, directory, runs.append _ _⟩
  | admitted _ constructed succeeded outcome =>
      rw [outcome]
      refine ⟨rfl, forall_mem_loaded (fun loaded member => ?_) ?_⟩
      · obtain ⟨made, directory, runs⟩ := allRun loaded member
        exact ⟨made, directory, runs.append _ _⟩
      · exact ⟨_, dataDir, constructed, succeeded, by simp [newHandle]; rfl⟩

theorem AllRun.loadBundle (allRun : manager.AllRun) (files : FileView) (bundle : PluginBundle) :
    (manager.loadBundle files bundle).manager.rules = manager.rules ∧
      (manager.loadBundle files bundle).manager.AllRun := by
  rw [PluginManager.loadBundle]
  split
  · exact ⟨rfl, allRun⟩
  · exact allRun.load _ _ _

theorem AllRun.perform (allRun : manager.AllRun) {request : ManagerRequest}
    (single : request.IsStep) (load : request.IsLoad) :
    (manager.perform request).manager.rules = manager.rules ∧
      (manager.perform request).manager.AllRun := by
  cases request with
  | loadBuiltin manifest => exact allRun.load manifest .builtin none
  | loadBundle files bundle => exact allRun.loadBundle files bundle
  | loadDirectory files directory => exact single.elim
  | evaluate manifest => exact load.elim
  | shutdownAll => exact load.elim

/-- However much a manager has loaded, all loaded plugins run. -/
theorem allRun_run (rules : AdmissionRules) {requests : List ManagerRequest}
    (loads : ∀ request ∈ requests, request.IsLoad) :
    ((new rules).run requests).manager.rules = rules ∧
      ((new rules).run requests).manager.AllRun := by
  rw [← ((new rules).run_flatMap_steps requests).1]
  refine run_induction
    (motive := fun after _ => after.rules = rules ∧ after.AllRun)
    [] ⟨rfl, allRun_new rules⟩ (requests.flatMap ManagerRequest.steps) ?_
  rintro manager _ step member ⟨sameRules, allRun⟩
  obtain ⟨request, among, within⟩ := List.mem_flatMap.mp member
  obtain ⟨kept, allRun⟩ := allRun.perform (ManagerRequest.isStep_of_mem_steps within)
    (ManagerRequest.isLoad_of_mem_steps (loads request among) within)
  exact ⟨kept.trans sameRules, allRun⟩

end PluginManager

end PluginHost
