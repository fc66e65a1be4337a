import PluginHost.Proofs.Admission.Scan
import PluginHost.Proofs.Files.Enumeration

/-!
# The bundles of a directory in the order of their names

Loading a directory is loading its bundles one after the other, in the order of the bytes of their
names.  Each of them is either admitted and counted or skipped with one warning.  Of the bundles
with an id that no plugin has yet, the first one whose plugin starts gets the id: those before it
leave nothing behind, and those after it find the id taken.  The order in which the directory lists
its names makes no difference.
-/

namespace PluginHost

/-- The warning about a bundle that was not admitted. -/
def BundleLoad.skipped? (load : BundleLoad) : Option HostWarning :=
  match load.outcome.result with
  | .ok _ => none
  | .error error => some (.bundleSkipped load.bundle.path error.message)

namespace PluginManager

/-- The manager after it has been asked for bundles one after the other. -/
def afterLoads (files : FileView) (manager : PluginManager) (bundles : List PluginBundle) :
    PluginManager :=
  bundles.foldl (fun reached bundle => (reached.loadBundle files bundle).manager) manager

/-- The plugin of the first of some bundles that starts with an id, when a manager is asked for
them one after the other. -/
inductive FirstToStart (files : FileView) (id : String) :
    PluginManager → List PluginBundle → LoadedPlugin → Prop where
  | here {manager : PluginManager} {bundle : PluginBundle} {rest : List PluginBundle}
      {plugin : LoadedPlugin} (starts : manager.Starts files id bundle plugin) :
      FirstToStart files id manager (bundle :: rest) plugin
  | later {manager : PluginManager} {bundle : PluginBundle} {rest : List PluginBundle}
      {plugin : LoadedPlugin} (none : ∀ other, ¬ manager.Starts files id bundle other)
      (first : FirstToStart files id (manager.loadBundle files bundle).manager rest plugin) :
      FirstToStart files id manager (bundle :: rest) plugin

/-- What loading bundles one after the other does. -/
structure LoadsInTurn (manager : PluginManager) (files : FileView) (bundles : List PluginBundle)
    (done : Managed Nat) : Prop where
  /-- The manager is that after the single loads. -/
  manager_eq : done.manager = manager.afterLoads files bundles
  /-- Plugin code is called as in the single loads. -/
  calls_eq : done.calls = (loadsOf files bundles manager).flatMap (·.outcome.calls)
  /-- There is one warning for each bundle that was not admitted, and no other. -/
  warnings_eq : done.warnings = (loadsOf files bundles manager).filterMap BundleLoad.skipped?
  /-- Each bundle was admitted or skipped. -/
  total : done.result + done.warnings.length = bundles.length
  /-- An id that no plugin had goes to the first bundle that starts with it. -/
  first : ∀ id, id ∉ manager.loadedIds → ∀ plugin,
    plugin ∈ done.manager.loaded ∧ plugin.manifest.id = id ↔
      FirstToStart files id manager bundles plugin

/-- What loading a directory does. -/
structure LoadsInNameOrder (manager : PluginManager) (files : FileView) (directory : String)
    (done : Managed Nat) : Prop where
  /-- A directory that cannot be read changes nothing. -/
  unreadable : ∀ problem, files.listing directory = .error problem →
    done = ⟨manager, [], [], 0⟩
  /-- The bundles under the names that a directory lists are loaded one after the other, in the
  order of the bytes of the names. -/
  readable : ∀ listed, files.listing directory = .ok listed →
    ∃ (names : List String) (bundles : List PluginBundle),
    names.Perm listed ∧ (names.map Text.encode).Pairwise (· ≤ ·) ∧
      bundles = (names.filterMap fun name =>
        PluginBundle.ofPath? files (Path.join directory name)) ∧
      PluginBundle.discover files directory = .ok bundles ∧
        manager.LoadsInTurn files bundles done
  /-- The result is the number of plugins that were added. -/
  counted : done.manager.loaded.length = manager.loaded.length + done.result
  /-- The order in which the directory lists its names makes no difference. -/
  relisted : ∀ others, FileView.Relists directory files others →
    manager.loadDirectory others directory = done

end PluginManager

/-! ### Each bundle is admitted or skipped -/

theorem BundleLoad.length_admitted_add_length_skipped (loads : List BundleLoad) :
    (loads.filterMap BundleLoad.admitted?).length +
      (loads.filterMap BundleLoad.skipped?).length = loads.length := by
  induction loads with
  | nil => rfl
  | cons load loads ih =>
      rw [List.filterMap_cons, List.filterMap_cons, admitted?, skipped?]
      cases load.outcome.result with
      | ok plugin =>
          simp only [Except.toOption, List.length_cons]
          omega
      | error error =>
          simp only [Except.toOption, List.length_cons]
          omega

namespace PluginManager

variable {files : FileView} {manager : PluginManager} {bundle : PluginBundle} {id : String}
  {plugin : LoadedPlugin}

theorem length_loadsOf (files : FileView) (bundles : List PluginBundle)
    (manager : PluginManager) : (loadsOf files bundles manager).length = bundles.length := by
  induction bundles generalizing manager with
  | nil => rfl
  | cons bundle bundles ih => rw [loadsOf, List.length_cons, ih, List.length_cons]

theorem run_manager (files : FileView) (bundles : List PluginBundle) (manager : PluginManager) :
    (manager.run (bundles.map (.loadBundle files))).manager = manager.afterLoads files bundles := by
  induction bundles generalizing manager with
  | nil => rfl
  | cons bundle bundles ih => exact ih _

theorem skipNotes_run (files : FileView) (bundles : List PluginBundle)
    (manager : PluginManager) :
    (List.zipWith skipNotes bundles
        (manager.run (bundles.map (.loadBundle files))).result).flatten =
      (loadsOf files bundles manager).filterMap BundleLoad.skipped? := by
  induction bundles generalizing manager with
  | nil => rfl
  | cons bundle bundles ih =>
      have rest := ih (manager.loadBundle files bundle).manager
      simp only [List.map_cons, run, perform, Managed.map, List.zipWith_cons_cons,
        List.flatten_cons, loadsOf, List.filterMap_cons, rest, BundleLoad.skipped?]
      cases (manager.loadBundle files bundle).result <;> rfl

/-! ### The first bundle that starts -/

theorem Starts.admissible (starts : manager.Starts files id bundle plugin)
    (newId : id ∉ manager.loadedIds) : manager.Admissible plugin.manifest where
  newId := starts.id_eq ▸ newId
  fits := starts.fits
  allowed := starts.allowed
  constructible := by
    obtain ⟨made, constructed, -⟩ := starts.initialised
    exact (PluginFactories.contains_eq_true_iff_construct? _ _ _).mpr ⟨made, constructed⟩

/-- A bundle that starts with a new id is admitted. -/
theorem Starts.loadBundle (starts : manager.Starts files id bundle plugin)
    (newId : id ∉ manager.loadedIds) :
    (manager.loadBundle files bundle).result = .ok plugin := by
  obtain ⟨made, constructed, succeeded⟩ := starts.initialised
  rw [PluginManager.loadBundle, starts.read]
  dsimp only
  cases manager.load_cases plugin.manifest (.bundle bundle.path) bundle.dataDirectory? with
  | refused refusal _ => exact absurd (starts.admissible newId) refusal.not_admissible
  | failed _ otherwise ended _ =>
      obtain rfl := Option.some.inj (constructed.symm.trans otherwise)
      rw [succeeded] at ended
      cases ended
  | admitted _ _ _ outcome =>
      rw [outcome, ← starts.source_eq, ← starts.number_eq]

theorem loadBundle_loaded (files : FileView) (manager : PluginManager) (bundle : PluginBundle) :
    (manager.loadBundle files bundle).manager.loaded =
      manager.loaded ++ (manager.loadBundle files bundle).result.toOption.toList := by
  have loaded := manager.perform_loaded
    (show (ManagerRequest.loadBundle files bundle).IsStep from trivial)
  rwa [perform, Managed.map, admitted?_loaded] at loaded

theorem mem_loadedIds_of_mem (member : plugin ∈ manager.loaded)
    (owned : plugin.manifest.id = id) : id ∈ manager.loadedIds :=
  List.mem_map.mpr ⟨plugin, member, owned⟩

theorem mem_loadBundle_iff (files : FileView) (manager : PluginManager) (bundle : PluginBundle)
    (plugin : LoadedPlugin) :
    plugin ∈ (manager.loadBundle files bundle).manager.loaded ↔
      plugin ∈ manager.loaded ∨ (manager.loadBundle files bundle).result = .ok plugin := by
  rw [loadBundle_loaded, List.mem_append]
  cases (manager.loadBundle files bundle).result with
  | error error => simp [Except.toOption]
  | ok found => simp [Except.toOption, eq_comm]

/-- No bundle takes an id away from a plugin that has it. -/
theorem mem_afterLoads_of_taken (taken : id ∈ manager.loadedIds)
    (owned : plugin.manifest.id = id) (bundles : List PluginBundle) :
    plugin ∈ (manager.afterLoads files bundles).loaded ↔ plugin ∈ manager.loaded := by
  induction bundles generalizing manager with
  | nil => rfl
  | cons bundle bundles ih =>
      have stillTaken : id ∈ (manager.loadBundle files bundle).manager.loadedIds := by
        obtain ⟨owner, member, owns⟩ := List.mem_map.mp taken
        exact mem_loadedIds_of_mem ((mem_loadBundle_iff _ _ _ _).mpr (.inl member)) owns
      have refused : (manager.loadBundle files bundle).result ≠ .ok plugin :=
        fun admitted => (starts_of_loadBundle admitted).2 (owned ▸ taken)
      exact (ih stillTaken).trans
        ((mem_loadBundle_iff _ _ _ _).trans (or_iff_left refused))

/-- An id that no plugin has goes to the first bundle that starts with it. -/
theorem mem_afterLoads_iff (newId : id ∉ manager.loadedIds) (bundles : List PluginBundle)
    (plugin : LoadedPlugin) :
    plugin ∈ (manager.afterLoads files bundles).loaded ∧ plugin.manifest.id = id ↔
      FirstToStart files id manager bundles plugin := by
  induction bundles generalizing manager with
  | nil =>
      refine iff_of_false ?_ (fun first => nomatch first)
      rintro ⟨member, owned⟩
      exact newId (mem_loadedIds_of_mem member owned)
  | cons bundle bundles ih =>
      by_cases some : ∃ winner, manager.Starts files id bundle winner
      · obtain ⟨winner, starts⟩ := some
        have admitted := starts.loadBundle newId
        have taken : id ∈ (manager.loadBundle files bundle).manager.loadedIds :=
          mem_loadedIds_of_mem ((mem_loadBundle_iff _ _ _ _).mpr (.inr admitted)) starts.id_eq
        constructor
        · rintro ⟨member, owned⟩
          rcases (mem_loadBundle_iff _ _ _ _).mp
              ((mem_afterLoads_of_taken taken owned bundles).mp member) with before | again
          · exact absurd (mem_loadedIds_of_mem before owned) newId
          · obtain rfl := Except.ok.inj (admitted.symm.trans again)
            exact .here starts
        · intro first
          cases first with
          | here again =>
              have member := (mem_loadBundle_iff _ _ _ _).mpr (.inr (again.loadBundle newId))
              exact ⟨(mem_afterLoads_of_taken taken again.id_eq bundles).mpr member,
                again.id_eq⟩
          | later none _ => exact absurd starts (none winner)
      · have none : ∀ other, ¬ manager.Starts files id bundle other := not_exists.mp some
        have stillNew : id ∉ (manager.loadBundle files bundle).manager.loadedIds := by
          intro member
          obtain ⟨owner, member, owns⟩ := List.mem_map.mp member
          rcases (mem_loadBundle_iff _ _ _ _).mp member with before | admitted
          · exact newId (mem_loadedIds_of_mem before owns)
          · exact none owner (owns ▸ (starts_of_loadBundle admitted).1)
        refine (ih stillNew).trans ⟨.later none, fun first => ?_⟩
        cases first with
        | here starts => exact absurd starts (none plugin)
        | later _ rest => exact rest

end PluginManager

/-! ### Directories that list their names in another order -/

namespace PluginBundle

variable {directory : String} {first second : FileView}

theorem discover_eq (files : FileView) (directory : String) :
    discover files directory = (files.listing directory).map fun listed =>
      (inOrder listed).filterMap fun name => ofPath? files (Path.join directory name) := by
  rw [discover, FileView.names]
  cases files.listing directory with
  | error problem => rfl
  | ok listed => exact congrArg Except.ok (List.filterMap_map ..)

theorem ofPath?_eq_of_relists (relists : FileView.Relists directory first second) :
    ofPath? first = ofPath? second := by
  funext path
  obtain ⟨isFile, isDirectory, -⟩ := relists.reads_eq path
  rw [ofPath?, ofPath?, isFile, isDirectory]

theorem manifest_eq_of_relists (relists : FileView.Relists directory first second)
    (bundle : PluginBundle) : bundle.manifest first = bundle.manifest second := by
  have text : bundle.manifestText first = bundle.manifestText second := by
    obtain ⟨path, kind⟩ := bundle
    cases kind with
    | archive => exact congrArg _ (archiveText_congr (relists.reads_eq path).2.2)
    | directory => exact congrArg _ (directoryText_congr (relists.reads_eq _).2.2)
  rw [manifest, manifest, text]

theorem discover_eq_of_relists (relists : FileView.Relists directory first second) :
    discover first directory = discover second directory := by
  rw [discover, discover, relists.names_eq, ofPath?_eq_of_relists relists]

end PluginBundle

namespace PluginManager

variable {directory : String} {first second : FileView}

theorem loadBundle_eq_of_relists (relists : FileView.Relists directory first second) :
    loadBundle first = loadBundle second := by
  funext manager bundle
  rw [loadBundle, loadBundle, PluginBundle.manifest_eq_of_relists relists]

theorem loadBundles_eq_of_relists (relists : FileView.Relists directory first second)
    (bundles : List PluginBundle) (done : Managed Nat) :
    loadBundles first bundles done = loadBundles second bundles done := by
  induction bundles generalizing done with
  | nil => rfl
  | cons bundle bundles ih =>
      rw [loadBundles, loadBundles, loadBundle_eq_of_relists relists]
      exact ih _

theorem loadDirectory_eq_of_relists (relists : FileView.Relists directory first second)
    (manager : PluginManager) :
    manager.loadDirectory first directory = manager.loadDirectory second directory := by
  rw [loadDirectory, loadDirectory, PluginBundle.discover_eq_of_relists relists]
  simp only [loadBundles_eq_of_relists relists]

/-! ### Whole directories -/

theorem loadBundles_loadsInTurn (files : FileView) (manager : PluginManager)
    (bundles : List PluginBundle) :
    manager.LoadsInTurn files bundles (loadBundles files bundles ⟨manager, [], [], 0⟩) := by
  obtain ⟨calls, admitted⟩ := manager.run_loadBundles files bundles
  have partition := BundleLoad.length_admitted_add_length_skipped (loadsOf files bundles manager)
  simp only [loadBundles_eq_run, run_manager, skipNotes_run, calls, admitted]
  exact ⟨rfl, List.nil_append _, List.nil_append _, by simpa [length_loadsOf] using partition,
    fun id newId plugin => mem_afterLoads_iff newId bundles plugin⟩

/-- Loading a directory is loading its bundles one after the other in the order of the bytes of
their names, however the directory lists them. -/
theorem loadDirectory_inNameOrder (files : FileView) (manager : PluginManager)
    (directory : String) :
    manager.LoadsInNameOrder files directory (manager.loadDirectory files directory) := by
  have discovered := PluginBundle.discover_eq files directory
  refine ⟨?_, ?_, ?_, fun others relists => (loadDirectory_eq_of_relists relists manager).symm⟩
  · intro problem unreadable
    rw [unreadable] at discovered
    rw [loadDirectory, discovered]
    rfl
  · intro listed readable
    rw [readable] at discovered
    refine ⟨inOrder listed, _, inOrder_perm listed, pairwise_encode_inOrder listed, rfl,
      discovered, ?_⟩
    rw [loadDirectory, discovered]
    exact loadBundles_loadsInTurn files manager _
  · obtain ⟨-, loaded, result⟩ := loadDirectory_eq_scan files manager directory
    rw [loaded, result, List.length_append]

/-- The first of three bundles with the same id cannot be initialised, so that the second one has
the id and the third one is refused, however the directory lists the three. -/
theorem loadDirectory_inNameOrder_sameId :
    let text : List UInt8 := Text.encode ("\x7b\"id\":\"x\",\"version\":\"1.0.0\"," ++
      "\"apiVersion\":\"1.0.0\",\"implementation\":\"k\"\x7d")
    let bundle : FileTree := .directory [("plugin.json", .file text)]
    let files (names : List String) : FileView :=
      ⟨.directory [("d", .directory (names.map fun name => (name, bundle)))], "/"⟩
    let plugin (init : HookOutcome) : Plugin := ⟨fun _ => init, fun _ => [], fun _ => .succeeded⟩
    let constructor : PluginConstructor := fun number =>
      plugin (if number = 0 then .panicked .other else .succeeded)
    let rules : AdmissionRules := ⟨.current, ⟨[]⟩, ⟨[("k", constructor)]⟩, []⟩
    let manager := new rules
    let done := manager.loadDirectory (files ["c", "a", "b"]) "/d"
    FileView.Relists "/d" (files ["c", "a", "b"]) (files ["b", "c", "a"]) ∧
      manager.LoadsInNameOrder (files ["c", "a", "b"]) "/d" done ∧
        manager.loadDirectory (files ["b", "c", "a"]) "/d" = done ∧
          done.manager.loaded.map (·.source) = [.bundle "/d/b"] ∧ done.result = 1 ∧
            done.warnings.length = 2 := by
  intro text bundle files plugin constructor rules manager done
  have otherOrder : ["c", "a", "b"].Perm ["b", "c", "a"] := by decide
  have relists : FileView.Relists "/d" (files ["c", "a", "b"]) (files ["b", "c", "a"]) := by
    refine ⟨rfl, ?_, ?_⟩
    · refine FileTree.SameContent.directory fun name => ?_
      rw [KeyedList.get?_cons, KeyedList.get?_cons]
      split
      · exact .some (FileTree.sameContent_of_perm (otherOrder.map _) (by decide))
      · exact .none
    · have listing : (files ["c", "a", "b"]).listing "/d" = .ok ["c", "a", "b"] ∧
          (files ["b", "c", "a"]).listing "/d" = .ok ["b", "c", "a"] := by
        decide +kernel
      intro names others listed listedAgain
      obtain rfl := Except.ok.inj (listing.1.symm.trans listed)
      obtain rfl := Except.ok.inj (listing.2.symm.trans listedAgain)
      exact otherOrder
  have inNameOrder := manager.loadDirectory_inNameOrder (files ["c", "a", "b"]) "/d"
  have outcome : (done.manager.loaded.map (·.source), done.result, done.warnings.length) =
      ([.bundle "/d/b"], 1, 2) := by
    decide +kernel
  obtain ⟨sources, counts⟩ := Prod.mk.inj outcome
  obtain ⟨result, warnings⟩ := Prod.mk.inj counts
  exact ⟨relists, inNameOrder, inNameOrder.relisted _ relists, sources, result, warnings⟩

end PluginManager

end PluginHost
