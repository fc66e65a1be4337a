import PluginHost.Host.Inspection
import PluginHost.Proofs.Admission.Calls
import PluginHost.Proofs.Tool.CoreText
import PluginHost.Settings.Validation

/-!
# The report on a manifest and the host

The report asks the gates that depend on the rules alone: versions, capabilities and the
implementation.  The host has one gate more, as an id may be loaded only once, and when it comes
to the bundles the compiled-in plugin may have taken its own.  About every other id the report
and the host agree.
-/

namespace PluginHost

theorem isPassed_eq_true_iff {ε : Type} {check : Except ε Unit} :
    isPassed check = true ↔ check = .ok () := by
  cases check <;> simp [isPassed]

/-- The gates of a manager are those of the report and that the id is new. -/
theorem PluginManager.admissible_iff_isAdmissible (manager : PluginManager)
    (manifest : Manifest) :
    manager.Admissible manifest ↔
      (AdmissionReport.of manager.rules manifest).isAdmissible = true ∧
        manifest.id ∉ manager.loadedIds := by
  simp only [AdmissionReport.isAdmissible, AdmissionReport.of, Bool.and_eq_true,
    isPassed_eq_true_iff]
  constructor
  · intro admissible
    exact ⟨⟨⟨admissible.fits, admissible.allowed⟩, admissible.constructible⟩, admissible.newId⟩
  · rintro ⟨⟨⟨fits, allowed⟩, constructible⟩, newId⟩
    exact ⟨newId, fits, allowed, constructible⟩

/-- A first load takes the id of its manifest if the plugin is admitted and initialised. -/
theorem PluginManager.mem_loadedIds_load_new (rules : AdmissionRules) (manifest : Manifest)
    (source : PluginSource) (dataDir : Option String) (id : String) :
    id ∈ ((new rules).load manifest source dataDir).manager.loadedIds ↔
      id = manifest.id ∧ (new rules).Admissible manifest ∧
        ∃ plugin, rules.factories.construct? manifest.implementation 0 = some plugin ∧
          plugin.init (rules.contextOf manifest.id dataDir) = .succeeded := by
  cases (new rules).load_cases manifest source dataDir with
  | refused refusal outcome =>
      rw [outcome]
      exact iff_of_false List.not_mem_nil fun loads => refusal.not_admissible loads.2.1
  | failed _ constructed ended outcome =>
      rw [outcome]
      refine iff_of_false List.not_mem_nil ?_
      rintro ⟨-, -, plugin, again, succeeded⟩
      obtain rfl := Option.some.inj (constructed.symm.trans again)
      have passed := (HookOutcome.result_eq_ok_iff _ manifest.id "init").mpr succeeded
      cases passed.symm.trans ended
  | admitted admissible constructed succeeded outcome =>
      rw [outcome]
      have loads : id ∈ [manifest.id] ↔ id = manifest.id := List.mem_singleton
      exact loads.trans
        ⟨fun same => ⟨same, admissible, _, constructed, succeeded⟩, fun all => all.1⟩

namespace HostSettings

/-- The manager with the compiled-in plugins, before the plugin directory is scanned. -/
def builtinManager (settings : HostSettings) : PluginManager :=
  (loadCatalog builtinCatalog ⟨PluginManager.new settings.admissionRules, [], [], ()⟩).manager

/-- The host that settings describe is assembled from this manager by scanning the directory. -/
theorem assemble_manager (settings : HostSettings) (files : FileView) :
    (settings.assemble files).manager =
      (settings.builtinManager.loadDirectory files settings.plugins.directory).manager :=
  rfl

/-- Whether the compiled-in plugin is loaded: what it asks for is allowed and it can read its
configuration. -/
def LoadsBuiltin (settings : HostSettings) : Prop :=
  settings.plugins.policy.enforce CoreText.pluginId ["text.transform", "json.read"] = .ok () ∧
    ∃ ellipsis,
      CoreText.readEllipsis (settings.admissionRules.configOf CoreText.pluginId) = .ok ellipsis

theorem builtinCatalog_eq : ∃ manifest, builtinCatalog = [manifest] ∧
    manifest.id = CoreText.pluginId ∧
    manifest.capabilities = ["text.transform", "json.read"] ∧
    manifest.resolve .current = .ok () ∧ manifest.implementation = coreTextKey :=
  ⟨_, rfl, rfl, rfl, rfl, rfl⟩

theorem builtinManager_eq (settings : HostSettings) {manifest : Manifest}
    (catalog : builtinCatalog = [manifest]) :
    settings.builtinManager =
      ((PluginManager.new settings.admissionRules).load manifest .builtin none).manager := by
  rw [builtinManager, catalog]
  rfl

theorem builtinManager_rules (settings : HostSettings) :
    settings.builtinManager.rules = settings.admissionRules := by
  obtain ⟨manifest, catalog, -⟩ := builtinCatalog_eq
  rw [settings.builtinManager_eq catalog]
  exact ((PluginManager.new settings.admissionRules).perform_follows
    (show (ManagerRequest.loadBuiltin manifest).IsStep from trivial)).rules

/-- The manifest of the compiled-in plugin fails at most for its capabilities. -/
theorem admissible_builtin_iff (settings : HostSettings) {manifest : Manifest}
    (catalog : builtinCatalog = [manifest]) :
    (PluginManager.new settings.admissionRules).Admissible manifest ↔
      settings.plugins.policy.enforce CoreText.pluginId ["text.transform", "json.read"] =
        .ok () := by
  obtain ⟨builtin, again, id_eq, capabilities, fits, implementation⟩ := builtinCatalog_eq
  obtain rfl : builtin = manifest := List.singleton_inj.mp (again.symm.trans catalog)
  constructor
  · intro admissible
    rw [← id_eq, ← capabilities]
    exact admissible.allowed
  · intro allowed
    rw [← id_eq, ← capabilities] at allowed
    refine ⟨List.not_mem_nil, fits, allowed, ?_⟩
    rw [implementation]
    rfl

/-- The compiled-in plugin is all that can be loaded before the plugin directory is scanned. -/
theorem mem_loadedIds_builtinManager_iff (settings : HostSettings) (id : String) :
    id ∈ settings.builtinManager.loadedIds ↔ id = CoreText.pluginId ∧ settings.LoadsBuiltin := by
  obtain ⟨manifest, catalog, id_eq, -, -, implementation⟩ := builtinCatalog_eq
  have constructed (plugin : Plugin) :
      settings.admissionRules.factories.construct? manifest.implementation 0 = some plugin ↔
        plugin = CoreText.plugin := by
    rw [implementation]
    exact Option.some_inj.trans eq_comm
  have context : (settings.admissionRules.contextOf manifest.id none).config =
      settings.admissionRules.configOf CoreText.pluginId := by
    rw [← id_eq]
    rfl
  rw [settings.builtinManager_eq catalog, PluginManager.mem_loadedIds_load_new,
    settings.admissible_builtin_iff catalog, id_eq, LoadsBuiltin]
  simp only [constructed, exists_eq_left, CoreText.init_eq_succeeded_iff]
  rw [← id_eq, context, id_eq]

end HostSettings

/-- What the report on a manifest says about the host that the same settings describe. -/
structure ReportedVerdict (settings : HostSettings) (manifest : Manifest) : Prop where
  /-- The host passes what the report calls admissible, unless the compiled-in plugin has the
  id. -/
  accepted : settings.builtinManager.evaluate manifest = .ok () ↔
    (AdmissionReport.of settings.admissionRules manifest).isAdmissible = true ∧
      ¬ (manifest.id = CoreText.pluginId ∧ settings.LoadsBuiltin)
  /-- In that case it refuses the manifest whatever the report says. -/
  taken : manifest.id = CoreText.pluginId → settings.LoadsBuiltin →
    settings.builtinManager.evaluate manifest = .error (.duplicateId manifest.id)

/-- The report and the host agree about every manifest, but for one whose id the compiled-in
plugin has taken. -/
theorem HostSettings.reportedVerdict (settings : HostSettings) (manifest : Manifest) :
    ReportedVerdict settings manifest where
  accepted := by
    rw [PluginManager.evaluate_eq_ok_iff, PluginManager.admissible_iff_isAdmissible,
      settings.builtinManager_rules, settings.mem_loadedIds_builtinManager_iff]
  taken := by
    intro id_eq loads
    exact PluginManager.evaluate_of_refusal
      (.duplicateId ((settings.mem_loadedIds_builtinManager_iff manifest.id).mpr ⟨id_eq, loads⟩))

/-- The text of a manifest with the id of the compiled-in plugin. -/
def takenIdText : String :=
  "\x7b\"id\":\"core-text\",\"version\":\"1.0.0\",\"apiVersion\":\"1.0.0\"," ++
    "\"implementation\":\"toolgate.builtin.core-text\"\x7d"

/-- By default a manifest with the id of the compiled-in plugin is reported as admissible, and the
host refuses it. -/
theorem reportedAdmissible_of_taken_id :
    ({} : HostSettings).violations = [] ∧
      ∃ manifest, Manifest.parse takenIdText = .ok manifest ∧
        (AdmissionReport.of ({} : HostSettings).admissionRules manifest).isAdmissible = true ∧
        ({} : HostSettings).builtinManager.evaluate manifest =
          .error (.duplicateId "core-text") :=
  ⟨by decide +kernel, _, rfl, rfl, rfl⟩

end PluginHost
