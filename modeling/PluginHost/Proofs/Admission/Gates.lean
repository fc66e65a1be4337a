import PluginHost.Plugin.Manager

/-!
# The gates of admission

What a manifest has to pass before its plugin is constructed, stated without an order of the
checks, and the error of the first check that it fails.  Loading a manifest then has three ways
to go: it is refused and nothing happens, its instance is constructed but cannot be
initialised, or its plugin is loaded.
-/

namespace PluginHost

namespace PluginFactories

/-- A key has a constructor exactly when an instance of any number can be constructed. -/
theorem contains_eq_true_iff_construct? (factories : PluginFactories) (key : String)
    (number : Nat) :
    factories.contains key = true ↔ ∃ plugin, factories.construct? key number = some plugin := by
  rw [contains, KeyedList.contains_eq_true_iff, construct?]
  constructor
  · rintro ⟨constructor, found⟩
    exact ⟨constructor number, by rw [found, Option.map_some]⟩
  · rintro ⟨plugin, constructed⟩
    obtain ⟨constructor, found, _⟩ := Option.map_eq_some_iff.mp constructed
    exact ⟨constructor, found⟩

end PluginFactories

namespace PluginManager

/-- What a manifest has passed when its plugin may be constructed. -/
structure Admissible (manager : PluginManager) (manifest : Manifest) : Prop where
  newId : manifest.id ∉ manager.loadedIds
  fits : manifest.resolve manager.rules.versions = .ok ()
  allowed : manager.rules.policy.enforce manifest.id manifest.capabilities = .ok ()
  constructible : manager.rules.factories.contains manifest.implementation = true

/-- The error of the first check that a manifest fails: its id, its versions, its capabilities,
its implementation. -/
inductive Refusal (manager : PluginManager) (manifest : Manifest) : AdmissionError → Prop where
  | duplicateId (taken : manifest.id ∈ manager.loadedIds) :
      Refusal manager manifest (.duplicateId manifest.id)
  | version {mismatch : Mismatch} (newId : manifest.id ∉ manager.loadedIds)
      (rejected : manifest.resolve manager.rules.versions = .error mismatch) :
      Refusal manager manifest (.version mismatch)
  | capability {violation : CapabilityViolation} (newId : manifest.id ∉ manager.loadedIds)
      (fits : manifest.resolve manager.rules.versions = .ok ())
      (denied : manager.rules.policy.enforce manifest.id manifest.capabilities =
        .error violation) :
      Refusal manager manifest (.capability violation)
  | unknownImplementation (newId : manifest.id ∉ manager.loadedIds)
      (fits : manifest.resolve manager.rules.versions = .ok ())
      (allowed : manager.rules.policy.enforce manifest.id manifest.capabilities = .ok ())
      (unknown : manager.rules.factories.contains manifest.implementation = false) :
      Refusal manager manifest (.unknownImplementation manifest.implementation)

variable {manager : PluginManager} {manifest : Manifest}

theorem evaluate_of_admissible (admissible : manager.Admissible manifest) :
    manager.evaluate manifest = .ok () := by
  simp [evaluate, admissible.newId, admissible.fits, admissible.allowed,
    admissible.constructible]

theorem evaluate_of_refusal {error : AdmissionError}
    (refusal : manager.Refusal manifest error) :
    manager.evaluate manifest = .error error := by
  cases refusal with
  | duplicateId taken => simp [evaluate, taken]
  | version newId rejected => simp [evaluate, newId, rejected]
  | capability newId fits denied => simp [evaluate, newId, fits, denied]
  | unknownImplementation newId fits allowed unknown =>
      simp [evaluate, newId, fits, allowed, unknown]

/-- Every manifest passes all checks or fails a first one. -/
theorem admissible_or_refusal (manager : PluginManager) (manifest : Manifest) :
    manager.Admissible manifest ∨ ∃ error, manager.Refusal manifest error := by
  by_cases newId : manifest.id ∈ manager.loadedIds
  · exact .inr ⟨_, .duplicateId newId⟩
  · cases fits : manifest.resolve manager.rules.versions with
    | error mismatch => exact .inr ⟨_, .version newId fits⟩
    | ok _ =>
        cases allowed : manager.rules.policy.enforce manifest.id manifest.capabilities with
        | error violation => exact .inr ⟨_, .capability newId fits allowed⟩
        | ok _ =>
            cases known : manager.rules.factories.contains manifest.implementation with
            | false => exact .inr ⟨_, .unknownImplementation newId fits allowed known⟩
            | true => exact .inl ⟨newId, fits, allowed, known⟩

/-- The check without an instance accepts exactly the admissible manifests. -/
theorem evaluate_eq_ok_iff :
    manager.evaluate manifest = .ok () ↔ manager.Admissible manifest := by
  constructor
  · intro accepted
    rcases manager.admissible_or_refusal manifest with admissible | ⟨error, refusal⟩
    · exact admissible
    · rw [evaluate_of_refusal refusal] at accepted
      cases accepted
  · exact evaluate_of_admissible

/-- The check without an instance gives the error of the first check that fails. -/
theorem evaluate_eq_error_iff {error : AdmissionError} :
    manager.evaluate manifest = .error error ↔ manager.Refusal manifest error := by
  constructor
  · intro rejected
    rcases manager.admissible_or_refusal manifest with admissible | ⟨other, refusal⟩
    · rw [evaluate_of_admissible admissible] at rejected
      cases rejected
    · rw [evaluate_of_refusal refusal] at rejected
      cases rejected
      exact refusal
  · exact evaluate_of_refusal

theorem Refusal.not_admissible {error : AdmissionError}
    (refusal : manager.Refusal manifest error) : ¬ manager.Admissible manifest := by
  intro admissible
  have accepted := evaluate_of_admissible admissible
  rw [evaluate_of_refusal refusal] at accepted
  cases accepted

/-- A manifest that passes every check finds its constructor, whatever the number of the
instance, so that loading it never misses the constructor after the checks. -/
theorem Admissible.exists_construct? (admissible : manager.Admissible manifest)
    (number : Nat) :
    ∃ plugin, manager.rules.factories.construct? manifest.implementation number = some plugin :=
  (PluginFactories.contains_eq_true_iff_construct? _ _ number).mp admissible.constructible

/-- The verdict depends on the rules and on the ids of the loaded plugins only. -/
theorem evaluate_congr {first second : PluginManager} (rules : first.rules = second.rules)
    (ids : first.loadedIds = second.loadedIds) (manifest : Manifest) :
    first.evaluate manifest = second.evaluate manifest := by
  rw [evaluate, evaluate, rules, ids]

/-! ### The three ways of loading a manifest -/

/-- The instance that a load constructs, after its `init` has ended with a result. -/
def newHandle (manager : PluginManager) (manifest : Manifest) (dataDir : Option String)
    (plugin : Plugin) (result : Except HostError Unit) : PluginHandle :=
  Handles.afterInit (PluginHandle.create manifest.id plugin).stop
    (manager.rules.contextOf manifest.id dataDir) result

/-- The calls of plugin code in a load that passes the checks. -/
def constructionCalls (manager : PluginManager) (manifest : Manifest)
    (dataDir : Option String) : List HookCall :=
  [.construct manager.handles.length manifest.implementation,
    .init manager.handles.length (manager.rules.contextOf manifest.id dataDir)]

/-- What can come of loading a manifest.  If a check fails, nothing is called and nothing changes.
Otherwise the instance is constructed; its plugin is loaded if its `init` succeeds, and stays out
if it fails or panics. -/
inductive LoadCase (manager : PluginManager) (manifest : Manifest) (source : PluginSource)
    (dataDir : Option String) (outcome : Managed (Except AdmissionError LoadedPlugin)) :
    Prop where
  | refused {error : AdmissionError} (refusal : manager.Refusal manifest error)
      (outcome_eq : outcome = manager.refused error)
  | failed {plugin : Plugin} {error : HostError} (admissible : manager.Admissible manifest)
      (constructed : manager.rules.factories.construct? manifest.implementation
        manager.handles.length = some plugin)
      (ended : (plugin.init (manager.rules.contextOf manifest.id dataDir)).result manifest.id
        "init" = .error error)
      (outcome_eq : outcome =
        ⟨{ manager with
            handles := manager.handles ++
              [manager.newHandle manifest dataDir plugin (.error error)] },
          manager.constructionCalls manifest dataDir, [], .error (.init error)⟩)
  | admitted {plugin : Plugin} (admissible : manager.Admissible manifest)
      (constructed : manager.rules.factories.construct? manifest.implementation
        manager.handles.length = some plugin)
      (succeeded : plugin.init (manager.rules.contextOf manifest.id dataDir) = .succeeded)
      (outcome_eq : outcome =
        ⟨{ manager with
            handles := manager.handles ++
              [manager.newHandle manifest dataDir plugin (.ok ())]
            loaded := manager.loaded ++ [⟨manifest, source, manager.handles.length⟩] },
          manager.constructionCalls manifest dataDir, [],
          .ok ⟨manifest, source, manager.handles.length⟩⟩)

theorem load_cases (manager : PluginManager) (manifest : Manifest) (source : PluginSource)
    (dataDir : Option String) :
    manager.LoadCase manifest source dataDir (manager.load manifest source dataDir) := by
  rcases manager.admissible_or_refusal manifest with admissible | ⟨error, refusal⟩
  · obtain ⟨plugin, constructed⟩ := admissible.exists_construct? manager.handles.length
    have loading : manager.load manifest source dataDir =
        manager.instantiate manifest source dataDir plugin := by
      rw [load, evaluate_of_admissible admissible]
      simp only [constructed]
    have started := Handles.init_append manager.handles manifest.id plugin
      (manager.rules.contextOf manifest.id dataDir)
    cases ended : (plugin.init (manager.rules.contextOf manifest.id dataDir)).result
        manifest.id "init" with
    | error error =>
        refine .failed admissible constructed ended ?_
        rw [loading, instantiate]
        simp only [started, ended]
        rfl
    | ok _ =>
        refine .admitted admissible constructed ((HookOutcome.result_eq_ok_iff _ _ _).mp ended) ?_
        rw [loading, instantiate]
        simp only [started, ended]
        rfl
  · refine .refused refusal ?_
    rw [load, evaluate_of_refusal refusal]

end PluginManager

end PluginHost
