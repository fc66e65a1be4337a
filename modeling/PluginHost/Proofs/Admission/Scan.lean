import PluginHost.Proofs.Admission.Loaded
import PluginHost.Proofs.Files.Listing

/-!
# Scanning a directory, bundle by bundle

A scan loads the bundles of a directory one after the other, each into the manager that the ones
before it left.  Whether there is a bundle at a path, and what its manifest is, depends on what
is at the path and on nothing else of the files.
-/

namespace PluginHost

namespace PluginBundle

variable {files first second : FileView} {path : String} {bundle : PluginBundle}

theorem path_of_ofPath? (found : ofPath? files path = some bundle) : bundle.path = path := by
  rw [ofPath?] at found
  split at found
  · cases found
    rfl
  · split at found
    · cases found
      rfl
    · cases found

theorem ofPath?_congr (same : first.find path = second.find path) :
    ofPath? first path = ofPath? second path := by
  have directory : first.isDirectory path = second.isDirectory path := by
    rw [FileView.isDirectory, FileView.isDirectory, same]
  have file : first.isFile path = second.isFile path := by
    rw [FileView.isFile, FileView.isFile, same]
  rw [ofPath?, ofPath?, directory, file]

theorem readBytes_congr (same : first.find path = second.find path) :
    first.readBytes path = second.readBytes path := by
  simp only [FileView.readBytes, same]

/-- A bundle that is a directory is one in which the manifest can be looked for. -/
theorem exists_entries_of_directory (isBundle : ofPath? files path = some ⟨path, .directory⟩) :
    ∃ entries, files.find path = .ok (.directory entries) := by
  have isDirectory : files.isDirectory path = true := by
    rw [ofPath?] at isBundle
    split at isBundle
    · assumption
    · split at isBundle <;> cases isBundle
  rw [FileView.isDirectory] at isDirectory
  split at isDirectory
  · next entries found => exact ⟨entries, found⟩
  · cases isDirectory

theorem isName_manifestFileName : Path.IsName manifestFileName := by
  constructor <;> decide

theorem directoryText_congr {directory : String}
    (same : first.readBytes (Path.join directory manifestFileName) =
      second.readBytes (Path.join directory manifestFileName)) :
    directoryText first directory = directoryText second directory := by
  simp only [directoryText, same]

theorem archiveText_congr (same : first.readBytes path = second.readBytes path) :
    archiveText first path = archiveText second path := by
  simp only [archiveText, same]

/-- The manifest of a bundle depends on what is at the path of the bundle. -/
theorem manifest_congr (same : first.find bundle.path = second.find bundle.path)
    (isBundle : ofPath? first bundle.path = some bundle) :
    bundle.manifest first = bundle.manifest second := by
  have text : bundle.manifestText first = bundle.manifestText second := by
    obtain ⟨path, kind⟩ := bundle
    cases kind with
    | archive => exact congrArg _ (archiveText_congr (readBytes_congr same))
    | directory =>
        obtain ⟨entries, found⟩ := exists_entries_of_directory isBundle
        have sameManifest : first.find (Path.join path manifestFileName) =
            second.find (Path.join path manifestFileName) := by
          rw [FileView.find_join found isName_manifestFileName,
            FileView.find_join (same ▸ found) isName_manifestFileName]
        exact congrArg _ (directoryText_congr (readBytes_congr sameManifest))
  rw [manifest, manifest, text]

/-- The id that the manifest of the bundle at a path gives, if there is a bundle and its manifest
can be read. -/
def idAt? (files : FileView) (path : String) : Option String :=
  (ofPath? files path).bind fun bundle =>
    match bundle.manifest files with
    | .ok manifest => some manifest.id
    | .error _ => none

theorem idAt?_of_manifest {manifest : Manifest} (isBundle : ofPath? files path = some bundle)
    (read : bundle.manifest files = .ok manifest) : idAt? files path = some manifest.id := by
  simp [idAt?, isBundle, read]

theorem idAt?_congr (same : first.find path = second.find path) :
    idAt? first path = idAt? second path := by
  have sameBundle := ofPath?_congr same
  rw [idAt?, idAt?, ← sameBundle]
  cases found : ofPath? first path with
  | none => rw [Option.bind_none, Option.bind_none]
  | some bundle =>
      obtain rfl := path_of_ofPath? found
      rw [Option.bind_some, Option.bind_some, manifest_congr same found]

theorem discover_of_lists {directory : String} {entries : KeyedList FileTree}
    (lists : files.Lists directory entries) :
    discover files directory =
      .ok ((KeyedList.keys entries).filterMap fun name =>
        ofPath? files (Path.join directory name)) := by
  rw [discover, lists.names_eq, Except.map, List.filterMap_map]
  rfl

end PluginBundle

/-- A bundle that a scan has come to, and what came of loading it. -/
structure BundleLoad where
  bundle : PluginBundle
  outcome : Managed (Except AdmissionError LoadedPlugin)

namespace BundleLoad

/-- The plugin of a bundle that was admitted. -/
def admitted? (load : BundleLoad) : Option LoadedPlugin :=
  load.outcome.result.toOption

end BundleLoad

namespace PluginManager

/-- The loads of bundles one after the other. -/
def loadsOf (files : FileView) : List PluginBundle → PluginManager → List BundleLoad
  | [], _ => []
  | bundle :: rest, manager =>
    let outcome := manager.loadBundle files bundle
    ⟨bundle, outcome⟩ :: loadsOf files rest outcome.manager

/-- The loads of the bundles of a directory. -/
def scan (files : FileView) (manager : PluginManager) (directory : String) : List BundleLoad :=
  match PluginBundle.discover files directory with
  | .error _ => []
  | .ok bundles => loadsOf files bundles manager

/-- A bundle whose manifest has an id and passes every check but that the id is new, and whose
plugin is initialised with success. -/
structure Starts (files : FileView) (id : String) (manager : PluginManager)
    (bundle : PluginBundle) (plugin : LoadedPlugin) : Prop where
  read : bundle.manifest files = .ok plugin.manifest
  id_eq : plugin.manifest.id = id
  source_eq : plugin.source = .bundle bundle.path
  number_eq : plugin.instanceNumber = manager.handles.length
  fits : plugin.manifest.resolve manager.rules.versions = .ok ()
  allowed : manager.rules.policy.enforce plugin.manifest.id plugin.manifest.capabilities = .ok ()
  initialised : ∃ made,
    manager.rules.factories.construct? plugin.manifest.implementation manager.handles.length =
        some made ∧
      made.init (manager.rules.contextOf plugin.manifest.id bundle.dataDirectory?) = .succeeded

/-- What is known of a bundle that was admitted. -/
theorem starts_of_loadBundle {files : FileView} {manager : PluginManager} {bundle : PluginBundle}
    {plugin : LoadedPlugin} (admitted : (manager.loadBundle files bundle).result = .ok plugin) :
    manager.Starts files plugin.manifest.id bundle plugin ∧
      plugin.manifest.id ∉ manager.loadedIds := by
  rw [loadBundle] at admitted
  split at admitted
  · cases admitted
  · next manifest read =>
      cases manager.load_cases manifest (.bundle bundle.path) bundle.dataDirectory? with
      | refused _ outcome => simp [outcome, refused] at admitted
      | failed _ _ _ outcome => simp [outcome] at admitted
      | admitted admissible constructed succeeded outcome =>
          rw [outcome] at admitted
          cases admitted
          exact ⟨⟨read, rfl, rfl, rfl, admissible.fits, admissible.allowed,
            _, constructed, succeeded⟩, admissible.newId⟩

/-- A bundle's plugin comes from the bundle. -/
theorem source_of_mem_loadsOf {files : FileView} {bundles : List PluginBundle}
    {manager : PluginManager} {load : BundleLoad} (among : load ∈ loadsOf files bundles manager)
    {plugin : LoadedPlugin} (admitted : load.admitted? = some plugin) :
    plugin.source = .bundle load.bundle.path := by
  induction bundles generalizing manager with
  | nil => cases among
  | cons bundle bundles ih =>
      rcases List.mem_cons.mp among with rfl | later
      · cases result : (manager.loadBundle files bundle).result with
        | error error => simp [BundleLoad.admitted?, result, Except.toOption] at admitted
        | ok found =>
            simp only [BundleLoad.admitted?, result, Except.toOption, Option.some.injEq] at admitted
            exact (starts_of_loadBundle (admitted ▸ result)).1.source_eq
      · exact ih later

theorem admitted?_loaded (result : Except AdmissionError LoadedPlugin) :
    (ManagerAnswer.loaded result).admitted? = result.toOption := by
  cases result <;> rfl

/-- The loads of bundles are the run in which a manager is asked for them one after the other. -/
theorem run_loadBundles (files : FileView) (bundles : List PluginBundle)
    (manager : PluginManager) :
    (manager.run (bundles.map (.loadBundle files))).calls =
        (loadsOf files bundles manager).flatMap (·.outcome.calls) ∧
      (manager.run (bundles.map (.loadBundle files))).result.filterMap ManagerAnswer.admitted? =
        (loadsOf files bundles manager).filterMap BundleLoad.admitted? := by
  induction bundles generalizing manager with
  | nil => simp [run, loadsOf]
  | cons bundle bundles ih =>
      obtain ⟨calls, admitted⟩ := ih (manager.loadBundle files bundle).manager
      simp only [List.map_cons, run, perform, Managed.map, loadsOf, List.flatMap_cons, calls,
        List.filterMap_cons, admitted, admitted?_loaded, BundleLoad.admitted?, and_self]

/-- A scan tells what loading a directory does: the calls of plugin code, the plugins that are
loaded and how many they are. -/
theorem loadDirectory_eq_scan (files : FileView) (manager : PluginManager) (directory : String) :
    (manager.loadDirectory files directory).calls =
        (manager.scan files directory).flatMap (·.outcome.calls) ∧
      (manager.loadDirectory files directory).manager.loaded =
        manager.loaded ++ (manager.scan files directory).filterMap BundleLoad.admitted? ∧
      (manager.loadDirectory files directory).result =
        ((manager.scan files directory).filterMap BundleLoad.admitted?).length := by
  rw [loadDirectory, scan]
  cases PluginBundle.discover files directory with
  | error problem => simp
  | ok bundles =>
      obtain ⟨calls, admitted⟩ := manager.run_loadBundles files bundles
      have single : ∀ request ∈ bundles.map (ManagerRequest.loadBundle files),
          request.IsStep := by
        intro request member
        obtain ⟨bundle, -, rfl⟩ := List.mem_map.mp member
        trivial
      simp only [loadBundles_eq_run, manager.run_loaded single, calls, admitted, List.nil_append,
        Nat.zero_add, and_self]

end PluginManager

end PluginHost
