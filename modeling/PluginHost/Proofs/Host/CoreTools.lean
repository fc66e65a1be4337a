import PluginHost.Host.Assembly
import PluginHost.Proofs.Admission.Constructions
import PluginHost.Proofs.Admission.Scan
import PluginHost.Proofs.Host.Verdict
import PluginHost.Proofs.Tool.Truncating

/-!
# The tools of an assembled host

A bundle brings a manifest and no code: whatever it asks for is constructed by a key that the host
knows, and the host knows one implementation.  So every loaded plugin runs the text plugin, under
an id and with a configuration of its own, and puts the same four names into the registry.  The
last one to do so owns them all.
-/

namespace PluginHost

namespace PluginManager

theorem registerEach_eq_run (handles : Handles) (plugins : List LoadedPlugin)
    (registry : ToolRegistry) :
    (registerEach handles plugins registry).1 =
      registry.run (plugins.map fun plugin => .plugin handles plugin.instanceNumber) := by
  induction plugins generalizing registry with
  | nil => rfl
  | cons plugin plugins ih =>
      rw [registerEach, List.map_cons]
      exact ih _

/-- The functions that a loaded plugin submits to the registry. -/
def submissionsOf (manager : PluginManager) (plugin : LoadedPlugin) : List Submission :=
  (RegistryRequest.plugin manager.handles plugin.instanceNumber).submissions

theorem registry_eq_filled (manager : PluginManager) :
    manager.registry.1 = ToolRegistry.filled (manager.loaded.flatMap manager.submissionsOf) := by
  rw [registry, registerEach_eq_run, ToolRegistry.run_eq_filled, List.flatMap_map]
  rfl

/-! ### One implementation -/

/-- A loaded plugin that runs the text plugin with an ellipsis. -/
structure RunsCoreText (manager : PluginManager) (plugin : LoadedPlugin) (ellipsis : String) :
    Prop where
  configured : CoreText.readEllipsis (manager.rules.configOf plugin.manifest.id) = .ok ellipsis
  active : manager.handles.isActive plugin.instanceNumber = true
  submissions : ∃ handle, handle.id = plugin.manifest.id ∧
    manager.submissionsOf plugin =
      (CoreText.toolsWith ellipsis).map (Submission.mk handle plugin.instanceNumber)

/-- The host can construct nothing but the text plugin. -/
theorem construct?_builtinFactories {key : String} {number : Nat} {made : Plugin}
    (constructed : builtinFactories.construct? key number = some made) :
    made = CoreText.plugin := by
  have one : builtinFactories.constructors = [(coreTextKey, fun _ => CoreText.plugin)] := rfl
  rw [PluginFactories.construct?, one, KeyedList.get?_cons] at constructed
  split at constructed
  · exact (Option.some.inj constructed).symm
  · cases constructed

theorem Runs.runsCoreText {manager : PluginManager} {plugin : LoadedPlugin} {made : Plugin}
    {dataDir : Option String} (runs : manager.Runs plugin made dataDir)
    (factories : manager.rules.factories = builtinFactories) :
    ∃ ellipsis, manager.RunsCoreText plugin ellipsis := by
  have constructed := runs.constructed
  rw [factories] at constructed
  obtain rfl := construct?_builtinFactories constructed
  obtain ⟨ellipsis, read⟩ := (CoreText.init_eq_succeeded_iff _).mp runs.succeeded
  refine ⟨ellipsis, read, ?_, ⟨plugin.manifest.id, CoreText.plugin,
    .active (manager.rules.contextOf plugin.manifest.id dataDir)⟩, rfl, ?_⟩
  · exact (manager.handles.isActive_eq_true_iff _).mpr ⟨_, _, runs.found, rfl⟩
  · rw [submissionsOf, RegistryRequest.submissions, runs.found, ← CoreText.tools_eq read]
    rfl

variable {manager : PluginManager}

/-- All that plugins which run the text plugin submit has the names of its tools and can be
registered. -/
theorem mem_toolNames_of_submission
    (coreText : ∀ plugin ∈ manager.loaded, ∃ ellipsis, manager.RunsCoreText plugin ellipsis)
    {submission : Submission} (member : submission ∈ manager.loaded.flatMap manager.submissionsOf) :
    submission.name ∈ CoreText.toolNames ∧ submission.Succeeds := by
  obtain ⟨plugin, loaded, submitted⟩ := List.mem_flatMap.mp member
  obtain ⟨ellipsis, runs⟩ := coreText plugin loaded
  obtain ⟨handle, -, submissions⟩ := runs.submissions
  rw [submissions] at submitted
  obtain ⟨function, among, rfl⟩ := List.mem_map.mp submitted
  exact ⟨(CoreText.mem_toolNames_iff ellipsis _).mpr ⟨function, among, rfl⟩,
    CoreText.succeeds_of_mem_toolsWith among _ _⟩

/-- Every tool of the last loaded plugin is in the registry under its name. -/
theorem RunsCoreText.find?_registry {earlier : List LoadedPlugin} {last : LoadedPlugin}
    (loaded : manager.loaded = earlier ++ [last]) {ellipsis : String}
    (runs : manager.RunsCoreText last ellipsis) {function : ToolFunction}
    (member : function ∈ CoreText.toolsWith ellipsis) :
    ∃ handle tool, handle.id = last.manifest.id ∧
      (Submission.mk handle last.instanceNumber function).Yields tool ∧
        manager.registry.1.find? function.descriptor.name = some tool := by
  obtain ⟨handle, id_eq, submissions⟩ := runs.submissions
  obtain ⟨tool, yields⟩ :=
    CoreText.succeeds_of_mem_toolsWith member handle last.instanceNumber
  refine ⟨handle, tool, id_eq, yields, ?_⟩
  have distinct : (((CoreText.toolsWith ellipsis).map
      (Submission.mk handle last.instanceNumber)).map Submission.name).Nodup := by
    rw [List.map_map]
    exact CoreText.nodup_names_toolsWith ellipsis
  rw [manager.registry_eq_filled, loaded, List.flatMap_append, List.flatMap_singleton, submissions]
  exact ToolRegistry.find?_filled_of_mem_final distinct (List.mem_map_of_mem member) yields

theorem names_registry
    (coreText : ∀ plugin ∈ manager.loaded, ∃ ellipsis, manager.RunsCoreText plugin ellipsis)
    (someLoaded : manager.loaded ≠ []) : manager.registry.1.names = CoreText.toolNames := by
  obtain ⟨earlier, last, loaded⟩ := (List.eq_nil_or_concat' manager.loaded).resolve_left someLoaded
  have lastLoaded : last ∈ manager.loaded := by
    rw [loaded]
    exact List.mem_append_right _ List.mem_cons_self
  obtain ⟨ellipsis, runs⟩ := coreText last lastLoaded
  have members (name : String) : name ∈ manager.registry.1.names ↔ name ∈ CoreText.toolNames := by
    constructor
    · intro among
      rw [manager.registry_eq_filled, ToolRegistry.mem_names_filled_iff] at among
      obtain ⟨submission, member, rfl, -⟩ := among
      exact (mem_toolNames_of_submission coreText member).1
    · intro among
      obtain ⟨function, member, rfl⟩ := (CoreText.mem_toolNames_iff ellipsis name).mp among
      obtain ⟨handle, tool, -, -, found⟩ := runs.find?_registry loaded member
      by_contra absent
      have missing := (KeyedList.get?_eq_none_iff _ _).mpr absent
      cases found.symm.trans missing
  -- Both lists increase, so it is enough that they have the same members.
  have increasing : manager.registry.1.names.Pairwise (· < ·) := by
    rw [manager.registry_eq_filled]
    exact List.pairwise_map.mpr (ToolRegistry.sorted_filled _)
  have distinct {names : List String} (increasing : names.Pairwise (· < ·)) : names.Nodup :=
    increasing.imp String.ne_of_lt
  refine List.Perm.eq_of_pairwise ?_ increasing CoreText.increasing_toolNames
    ((List.perm_ext_iff_of_nodup (distinct increasing)
      (distinct CoreText.increasing_toolNames)).mpr members)
  intro left right _ _ below above
  exact absurd (String.lt_trans below above) (String.lt_irrefl _)

theorem registry_of_nothing_loaded (nothing : manager.loaded = []) :
    manager.registry.1 = .empty := by
  rw [manager.registry_eq_filled, nothing]
  rfl

end PluginManager

/-! ### The host -/

/-- The ellipsis that settings give to the plugin of an id: what is configured under the id, or
the default where nothing is. -/
inductive HostSettings.GivesEllipsis (settings : HostSettings) (id : String) : String → Prop where
  | unconfigured (absent : KeyedList.get? id settings.plugins.config = none) :
      GivesEllipsis settings id CoreText.defaultEllipsis
  | configured {config : Json} {ellipsis : String}
      (found : KeyedList.get? id settings.plugins.config = some config)
      (configures : CoreText.Configures config ellipsis) : GivesEllipsis settings id ellipsis

theorem HostSettings.givesEllipsis_of_readEllipsis {settings : HostSettings} {id ellipsis : String}
    (read : CoreText.readEllipsis (settings.admissionRules.configOf id) = .ok ellipsis) :
    settings.GivesEllipsis id ellipsis := by
  rw [AdmissionRules.configOf] at read
  cases found : KeyedList.get? id settings.plugins.config with
  | none =>
      have default_eq : CoreText.defaultEllipsis = ellipsis := by
        have nothing : KeyedList.get? id settings.admissionRules.pluginConfig = none := found
        rw [nothing] at read
        exact Except.ok.inj read
      exact default_eq ▸ .unconfigured found
  | some config =>
      have stated : KeyedList.get? id settings.admissionRules.pluginConfig = some config := found
      rw [stated] at read
      exact .configured found (CoreText.configures_of_readEllipsis read)

/-- The registry of a host, whose plugin that was loaded last is given. -/
structure OwnsCoreTools (settings : HostSettings) (handles : Handles) (registry : ToolRegistry)
    (last : LoadedPlugin) : Prop where
  names : registry.names = ["json_pointer", "normalize_whitespace", "truncate", "word_count"]
  /-- The last plugin owns every tool. -/
  owned : ∀ name tool, registry.find? name = some tool →
    tool.owner = last.instanceNumber ∧ tool.definition.pluginId = last.manifest.id ∧
      tool.definition.name = name
  /-- The tools are those of the text plugin with the ellipsis of the last plugin's id. -/
  ellipsis : ∃ ellipsis, settings.GivesEllipsis last.manifest.id ellipsis ∧
    (∀ name tool, registry.find? name = some tool →
      ∃ function ∈ CoreText.toolsWith ellipsis,
        tool.definition = .of last.manifest.id function ∧ tool.handler = function.handler) ∧
    ∀ (text : String) (limit : Nat), limit < Nat.pow 2 64 →
      registry.invoke handles "truncate" (CoreText.truncateArgs text limit) =
        .finished (.ok (.string (CoreText.truncate text limit ellipsis)))

/-- The names in the directory that bundles are loaded from. -/
def HostSettings.bundleNames (settings : HostSettings) (files : FileView) : List String :=
  match files.names settings.plugins.directory with
  | .ok names => names
  | .error _ => []

/-- What is in the registry of the host that settings describe. -/
structure CoreToolsOnly (settings : HostSettings) (files : FileView) (host : AssembledHost) :
    Prop where
  empty_iff : host.registry.names = [] ↔ host.manager.loaded = []
  /-- The compiled-in plugin is loaded before the bundles, and these in the order of the names in
  their directory. -/
  order : ∃ builtin bundles, host.manager.loaded = builtin ++ bundles ∧
    (∀ plugin ∈ builtin, plugin.source = .builtin) ∧
    (bundles.map LoadedPlugin.source).Sublist ((settings.bundleNames files).map fun name =>
      .bundle (Path.join settings.plugins.directory name))
  increasing : ∀ entries, files.Lists settings.plugins.directory entries →
    (settings.bundleNames files).Pairwise (· < ·)
  lastOwns : ∀ earlier last, host.manager.loaded = earlier ++ [last] →
    OwnsCoreTools settings host.manager.handles host.registry last

namespace HostSettings

theorem exists_loads_assemble (settings : HostSettings) (files : FileView) :
    ∃ requests : List ManagerRequest, (∀ request ∈ requests, request.IsLoad) ∧
      (settings.assemble files).manager =
        ((PluginManager.new settings.admissionRules).run requests).manager := by
  obtain ⟨manifest, catalog, -⟩ := builtinCatalog_eq
  refine ⟨[.loadBuiltin manifest, .loadDirectory files settings.plugins.directory], ?_, ?_⟩
  · intro request member
    simp only [List.mem_cons, List.not_mem_nil, or_false] at member
    rcases member with rfl | rfl <;> trivial
  · rw [settings.assemble_manager, settings.builtinManager_eq catalog]
    rfl

theorem runsCoreText_assemble (settings : HostSettings) (files : FileView) :
    (settings.assemble files).manager.rules = settings.admissionRules ∧
      ∀ plugin ∈ (settings.assemble files).manager.loaded,
        ∃ ellipsis, (settings.assemble files).manager.RunsCoreText plugin ellipsis := by
  obtain ⟨requests, loads, manager_eq⟩ := settings.exists_loads_assemble files
  obtain ⟨rules, allRun⟩ := PluginManager.allRun_run settings.admissionRules loads
  rw [manager_eq]
  refine ⟨rules, fun plugin member => ?_⟩
  obtain ⟨made, dataDir, runs⟩ := allRun plugin member
  exact runs.runsCoreText (by rw [rules]; rfl)

/-! ### The load order -/

theorem source_of_mem_builtinManager (settings : HostSettings) {plugin : LoadedPlugin}
    (member : plugin ∈ settings.builtinManager.loaded) : plugin.source = .builtin := by
  obtain ⟨manifest, catalog, -⟩ := builtinCatalog_eq
  rw [settings.builtinManager_eq catalog] at member
  cases (PluginManager.new settings.admissionRules).load_cases manifest .builtin none with
  | refused _ outcome =>
      rw [outcome] at member
      cases member
  | failed _ _ _ outcome =>
      rw [outcome] at member
      cases member
  | admitted _ _ _ outcome =>
      rw [outcome] at member
      obtain rfl := List.mem_singleton.mp member
      rfl

end HostSettings

/-- The bundles that a scan loads are among those that it comes to, in the same order. -/
theorem PluginManager.sources_loadsOf (files : FileView) (bundles : List PluginBundle)
    (manager : PluginManager) :
    (((loadsOf files bundles manager).filterMap BundleLoad.admitted?).map
      LoadedPlugin.source).Sublist (bundles.map fun bundle => .bundle bundle.path) := by
  induction bundles generalizing manager with
  | nil => exact List.Sublist.refl _
  | cons bundle bundles ih =>
      rw [loadsOf, List.filterMap_cons, List.map_cons]
      have rest := ih (manager.loadBundle files bundle).manager
      split
      · exact rest.cons _
      · next plugin admitted =>
          have first : (⟨bundle, manager.loadBundle files bundle⟩ : BundleLoad) ∈
              loadsOf files (bundle :: bundles) manager := List.mem_cons_self
          rw [List.map_cons, source_of_mem_loadsOf first admitted]
          exact rest.cons_cons _

theorem PluginBundle.paths_of_names (files : FileView) (directory : String)
    (names : List String) :
    (((names.map (Path.join directory)).filterMap (ofPath? files)).map
      PluginBundle.path).Sublist (names.map (Path.join directory)) := by
  induction names with
  | nil => exact List.Sublist.refl _
  | cons name names ih =>
      rw [List.map_cons, List.filterMap_cons]
      split
      · exact ih.cons _
      · next bundle found =>
          rw [List.map_cons, path_of_ofPath? found]
          exact ih.cons_cons _

/-- The plugins that a scan of the plugin directory loads come in the order of the names there. -/
theorem HostSettings.sources_scan (settings : HostSettings) (files : FileView)
    (manager : PluginManager) :
    (((manager.scan files settings.plugins.directory).filterMap BundleLoad.admitted?).map
      LoadedPlugin.source).Sublist ((settings.bundleNames files).map fun name =>
        .bundle (Path.join settings.plugins.directory name)) := by
  rw [PluginManager.scan, PluginBundle.discover, bundleNames]
  cases files.names settings.plugins.directory with
  | error problem => exact List.Sublist.refl _
  | ok names =>
      have paths := (PluginBundle.paths_of_names files settings.plugins.directory names).map
        PluginSource.bundle
      rw [List.map_map, List.map_map] at paths
      exact (PluginManager.sources_loadsOf files _ manager).trans paths

theorem PluginManager.exists_function_of_find? {manager : PluginManager}
    (coreText : ∀ plugin ∈ manager.loaded, ∃ ellipsis, manager.RunsCoreText plugin ellipsis)
    {earlier : List LoadedPlugin} {last : LoadedPlugin}
    (loaded : manager.loaded = earlier ++ [last]) {ellipsis : String}
    (runs : manager.RunsCoreText last ellipsis) {name : String} {tool : RegisteredTool}
    (found : manager.registry.1.find? name = some tool) :
    ∃ handle, ∃ function ∈ CoreText.toolsWith ellipsis, handle.id = last.manifest.id ∧
      function.descriptor.name = name ∧
        (Submission.mk handle last.instanceNumber function).Yields tool := by
  have among : name ∈ manager.registry.1.names := by
    by_contra absent
    have missing := (KeyedList.get?_eq_none_iff _ _).mpr absent
    cases found.symm.trans missing
  rw [names_registry coreText (by simp [loaded])] at among
  obtain ⟨function, member, rfl⟩ := (CoreText.mem_toolNames_iff ellipsis name).mp among
  obtain ⟨handle, own, id_eq, yields, ownFound⟩ := runs.find?_registry loaded member
  obtain rfl := Option.some.inj (ownFound.symm.trans found)
  exact ⟨handle, function, member, id_eq, rfl, yields⟩

/-- The plugin that was loaded last owns all tools. -/
theorem PluginManager.ownsCoreTools {manager : PluginManager} {settings : HostSettings}
    (rules : manager.rules = settings.admissionRules)
    (coreText : ∀ plugin ∈ manager.loaded, ∃ ellipsis, manager.RunsCoreText plugin ellipsis)
    {earlier : List LoadedPlugin} {last : LoadedPlugin}
    (loaded : manager.loaded = earlier ++ [last]) :
    OwnsCoreTools settings manager.handles manager.registry.1 last := by
  have lastLoaded : last ∈ manager.loaded := by
    rw [loaded]
    exact List.mem_append_right _ List.mem_cons_self
  obtain ⟨ellipsis, runs⟩ := coreText last lastLoaded
  have configured := runs.configured
  rw [rules] at configured
  constructor
  case names => exact names_registry coreText (List.ne_nil_of_mem lastLoaded)
  case owned =>
    intro name tool found
    obtain ⟨handle, function, -, id_eq, named, yields⟩ :=
      exists_function_of_find? coreText loaded runs found
    refine ⟨yields.owner_eq, ?_, yields.name_eq.trans named⟩
    rw [yields.definition_eq, ← id_eq]
    rfl
  case ellipsis =>
    refine ⟨ellipsis, HostSettings.givesEllipsis_of_readEllipsis configured, ?_, ?_⟩
    · intro name tool found
      obtain ⟨handle, function, member, id_eq, -, yields⟩ :=
        exists_function_of_find? coreText loaded runs found
      rw [← id_eq]
      exact ⟨function, member, yields.definition_eq, yields.handler_eq⟩
    · intro text limit inRange
      have member : CoreText.truncateTool ellipsis ∈ CoreText.toolsWith ellipsis := by
        simp [CoreText.toolsWith]
      obtain ⟨handle, tool, -, yields, found⟩ := runs.find?_registry loaded member
      exact CoreText.invoke_truncate found yields runs.active text inRange

theorem HostSettings.assemble_registry (settings : HostSettings) (files : FileView) :
    (settings.assemble files).registry = (settings.assemble files).manager.registry.1 := by
  simp only [assemble]

/-- Whatever is configured and whatever is in the plugin directory, the host has no tools or those
of the text plugin, which belong to the plugin that was loaded last. -/
theorem HostSettings.assemble_coreToolsOnly (settings : HostSettings) (files : FileView) :
    CoreToolsOnly settings files (settings.assemble files) := by
  obtain ⟨rules, coreText⟩ := settings.runsCoreText_assemble files
  have registry := settings.assemble_registry files
  constructor
  case empty_iff =>
    rw [registry]
    constructor
    · intro noNames
      by_contra someLoaded
      cases noNames.symm.trans (PluginManager.names_registry coreText someLoaded)
    · intro nothing
      rw [PluginManager.registry_of_nothing_loaded nothing]
      rfl
  case order =>
    have loaded := (settings.builtinManager.loadDirectory_eq_scan files
      settings.plugins.directory).2.1
    rw [settings.assemble_manager]
    exact ⟨_, _, loaded, fun _ => settings.source_of_mem_builtinManager,
      settings.sources_scan files _⟩
  case increasing =>
    intro entries lists
    rw [bundleNames, lists.names_eq]
    exact List.pairwise_map.mpr lists.sorted
  case lastOwns =>
    intro earlier last loaded
    rw [registry]
    exact PluginManager.ownsCoreTools rules coreText loaded

end PluginHost
