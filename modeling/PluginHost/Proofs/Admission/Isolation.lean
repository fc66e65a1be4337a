import PluginHost.Proofs.Admission.Scan

/-!
# Bundles do not reach each other

Two scans of directories that differ in one bundle treat every other bundle alike: it is
admitted or refused with the same error, its `init` is told the same, and the plugins of the
other bundles are loaded in the same order.  What a bundle leaves behind for those after it is
the id of its plugin and nothing else, so that managers which agree about all other ids cannot be
told apart by the manifests of other bundles.
-/

namespace PluginHost

/-- Constructors whose instances all answer a context alike. -/
def PluginFactories.UniformInit (factories : PluginFactories) : Prop :=
  ∀ key first second firstPlugin secondPlugin,
    factories.construct? key first = some firstPlugin →
      factories.construct? key second = some secondPlugin →
        ∀ context, firstPlugin.init context = secondPlugin.init context

/-- What `init` is told in a call. -/
def HookCall.context? : HookCall → Option PluginContext
  | .init _ context => some context
  | _ => none

/-- What is to be seen of a load, apart from the numbers of instances. -/
structure LoadView where
  /-- The manifest and the source of the plugin that was admitted, or the error. -/
  verdict : Except AdmissionError (Manifest × PluginSource)
  /-- What `init` was told. -/
  contexts : List PluginContext

/-- A plugin apart from the number of its instance. -/
def LoadedPlugin.origin (plugin : LoadedPlugin) : Manifest × PluginSource :=
  (plugin.manifest, plugin.source)

def Managed.view (outcome : Managed (Except AdmissionError LoadedPlugin)) : LoadView :=
  ⟨outcome.result.map LoadedPlugin.origin, outcome.calls.filterMap HookCall.context?⟩

namespace PluginManager

/-- Managers that agree about every id other than some own ones. -/
structure SameBut (own : String → Prop) (first second : PluginManager) : Prop where
  versions : first.rules.versions = second.rules.versions
  policy : first.rules.policy = second.rules.policy
  factories : first.rules.factories = second.rules.factories
  configs : ∀ id, ¬ own id →
    KeyedList.get? id first.rules.pluginConfig = KeyedList.get? id second.rules.pluginConfig
  loadedIds : ∀ id, ¬ own id → (id ∈ first.loadedIds ↔ id ∈ second.loadedIds)

variable {own : String → Prop} {first second third : PluginManager} {manifest : Manifest}
  {source : PluginSource} {dataDir : Option String}

theorem SameBut.refl (own : String → Prop) (manager : PluginManager) :
    manager.SameBut own manager :=
  ⟨rfl, rfl, rfl, fun _ _ => rfl, fun _ _ => Iff.rfl⟩

theorem SameBut.trans (early : first.SameBut own second) (late : second.SameBut own third) :
    first.SameBut own third where
  versions := early.versions.trans late.versions
  policy := early.policy.trans late.policy
  factories := early.factories.trans late.factories
  configs id other := (early.configs id other).trans (late.configs id other)
  loadedIds id other := (early.loadedIds id other).trans (late.loadedIds id other)

theorem SameBut.configOf (alike : first.SameBut own second) {id : String} (other : ¬ own id) :
    first.rules.configOf id = second.rules.configOf id := by
  rw [AdmissionRules.configOf, AdmissionRules.configOf, alike.configs id other]

theorem SameBut.contextOf (alike : first.SameBut own second) {id : String} (other : ¬ own id)
    (dataDir : Option String) :
    first.rules.contextOf id dataDir = second.rules.contextOf id dataDir := by
  rw [AdmissionRules.contextOf, AdmissionRules.contextOf, alike.versions, alike.configOf other]

theorem SameBut.evaluate (alike : first.SameBut own second) (other : ¬ own manifest.id) :
    first.evaluate manifest = second.evaluate manifest := by
  have taken : first.loadedIds.contains manifest.id = second.loadedIds.contains manifest.id := by
    rw [Bool.eq_iff_iff, List.contains_iff_mem, List.contains_iff_mem]
    exact alike.loadedIds manifest.id other
  rw [PluginManager.evaluate, PluginManager.evaluate, taken, alike.versions, alike.policy,
    alike.factories]

/-! ### One load -/

theorem load_of_refusal {manager : PluginManager} {error : AdmissionError}
    (refusal : manager.Refusal manifest error) :
    manager.load manifest source dataDir = manager.refused error := by
  rw [load, evaluate_of_refusal refusal]

theorem view_load_of_admissible {manager : PluginManager} {plugin : Plugin}
    (admissible : manager.Admissible manifest)
    (constructed : manager.rules.factories.construct? manifest.implementation
      manager.handles.length = some plugin) :
    (manager.load manifest source dataDir).view =
      let context := manager.rules.contextOf manifest.id dataDir
      ⟨(((plugin.init context).result manifest.id "init").map fun _ => (manifest, source)).mapError
        .init, [context]⟩ := by
  cases manager.load_cases manifest source dataDir with
  | refused refusal _ => exact absurd admissible refusal.not_admissible
  | failed _ otherwise ended outcome =>
      obtain rfl := Option.some.inj (constructed.symm.trans otherwise)
      simp only [outcome, ended]
      rfl
  | admitted _ otherwise succeeded outcome =>
      obtain rfl := Option.some.inj (constructed.symm.trans otherwise)
      simp only [outcome, succeeded]
      rfl

/-- Managers that agree about the id of a manifest give the same view of loading it. -/
theorem SameBut.view_load (alike : first.SameBut own second) (other : ¬ own manifest.id)
    (uniform : first.rules.factories.UniformInit) (source : PluginSource)
    (dataDir : Option String) :
    (first.load manifest source dataDir).view = (second.load manifest source dataDir).view := by
  have verdict := alike.evaluate other
  rcases first.admissible_or_refusal manifest with admissible | ⟨error, refusal⟩
  · rw [evaluate_of_admissible admissible] at verdict
    have alsoAdmissible := evaluate_eq_ok_iff.mp verdict.symm
    obtain ⟨firstPlugin, firstMade⟩ := admissible.exists_construct? first.handles.length
    obtain ⟨secondPlugin, secondMade⟩ := alsoAdmissible.exists_construct? second.handles.length
    have init := uniform _ _ _ _ _ firstMade (alike.factories ▸ secondMade)
    rw [view_load_of_admissible admissible firstMade,
      view_load_of_admissible alsoAdmissible secondMade, alike.contextOf other]
    simp only [init]
  · rw [evaluate_of_refusal refusal] at verdict
    rw [load_of_refusal refusal, load_of_refusal (evaluate_eq_error_iff.mp verdict.symm)]
    rfl

/-! ### What a load leaves behind -/

/-- A manager that has come from another by taking ids. -/
structure Takes (later : PluginManager) (ids : List String) (earlier : PluginManager) :
    Prop where
  rules : later.rules = earlier.rules
  loadedIds : later.loadedIds = earlier.loadedIds ++ ids

/-- The ids that a view of a load shows to be taken. -/
def takenIds (view : LoadView) : List String :=
  view.verdict.toOption.toList.map fun origin => origin.1.id

theorem load_takes (manager : PluginManager) (manifest : Manifest) (source : PluginSource)
    (dataDir : Option String) :
    (manager.load manifest source dataDir).manager.Takes
        (takenIds (manager.load manifest source dataDir).view) manager ∧
      ∀ id ∈ takenIds (manager.load manifest source dataDir).view, id = manifest.id := by
  cases manager.load_cases manifest source dataDir with
  | refused _ outcome =>
      rw [outcome]
      exact ⟨⟨rfl, (List.append_nil _).symm⟩, fun _ member => absurd member List.not_mem_nil⟩
  | failed _ _ _ outcome =>
      rw [outcome]
      exact ⟨⟨rfl, (List.append_nil _).symm⟩, fun _ member => absurd member List.not_mem_nil⟩
  | admitted _ _ _ outcome =>
      rw [outcome]
      refine ⟨⟨rfl, ?_⟩, fun _ member => List.mem_singleton.mp member⟩
      simp [PluginManager.loadedIds, takenIds, Managed.view, Except.map, Except.toOption,
        LoadedPlugin.origin]

theorem loadBundle_takes (files : FileView) (manager : PluginManager) (bundle : PluginBundle) :
    (manager.loadBundle files bundle).manager.Takes
        (takenIds (manager.loadBundle files bundle).view) manager ∧
      ∀ id ∈ takenIds (manager.loadBundle files bundle).view,
        ∃ manifest, bundle.manifest files = .ok manifest ∧ manifest.id = id := by
  rw [loadBundle]
  split
  · exact ⟨⟨rfl, (List.append_nil _).symm⟩, fun _ member => absurd member List.not_mem_nil⟩
  · next manifest read =>
      obtain ⟨takes, only⟩ :=
        manager.load_takes manifest (.bundle bundle.path) bundle.dataDirectory?
      exact ⟨takes, fun id member => ⟨manifest, read, (only id member).symm⟩⟩

theorem SameBut.of_takes {laterFirst laterSecond : PluginManager} {firstIds secondIds : List String}
    (alike : first.SameBut own second) (firstTakes : laterFirst.Takes firstIds first)
    (secondTakes : laterSecond.Takes secondIds second)
    (ids : ∀ id, ¬ own id → (id ∈ firstIds ↔ id ∈ secondIds)) :
    laterFirst.SameBut own laterSecond := by
  constructor
  · rw [firstTakes.rules, secondTakes.rules, alike.versions]
  · rw [firstTakes.rules, secondTakes.rules, alike.policy]
  · rw [firstTakes.rules, secondTakes.rules, alike.factories]
  · rw [firstTakes.rules, secondTakes.rules]
    exact alike.configs
  · intro id other
    rw [firstTakes.loadedIds, secondTakes.loadedIds, List.mem_append, List.mem_append,
      alike.loadedIds id other, ids id other]

variable {files firstFiles secondFiles : FileView} {bundle : PluginBundle}

/-- A bundle whose plugin has an own id goes unnoticed. -/
theorem SameBut.loadBundle_left (alike : first.SameBut own second)
    (owns : ∀ manifest, bundle.manifest files = .ok manifest → own manifest.id) :
    (first.loadBundle files bundle).manager.SameBut own second := by
  obtain ⟨takes, only⟩ := first.loadBundle_takes files bundle
  refine alike.of_takes takes ⟨rfl, (List.append_nil _).symm⟩ fun id other => ?_
  refine iff_of_false (fun member => ?_) List.not_mem_nil
  obtain ⟨manifest, read, rfl⟩ := only id member
  exact other (owns manifest read)

/-- Any other bundle looks the same to both managers. -/
theorem SameBut.view_loadBundle (alike : first.SameBut own second)
    (uniform : first.rules.factories.UniformInit)
    (same : bundle.manifest firstFiles = bundle.manifest secondFiles)
    (others : ∀ manifest, bundle.manifest firstFiles = .ok manifest → ¬ own manifest.id) :
    (first.loadBundle firstFiles bundle).view = (second.loadBundle secondFiles bundle).view := by
  rw [loadBundle, loadBundle, ← same]
  split
  · rfl
  · next manifest read => exact alike.view_load (others manifest read) uniform _ _

theorem SameBut.loadBundle (alike : first.SameBut own second)
    (sameView : (first.loadBundle firstFiles bundle).view =
      (second.loadBundle secondFiles bundle).view) :
    (first.loadBundle firstFiles bundle).manager.SameBut own
      (second.loadBundle secondFiles bundle).manager := by
  refine alike.of_takes (first.loadBundle_takes firstFiles bundle).1
    (second.loadBundle_takes secondFiles bundle).1 fun id _ => ?_
  rw [sameView]

end PluginManager

/-! ### A whole scan -/

/-- What is to be seen of a bundle that a scan has come to. -/
def BundleLoad.seen (load : BundleLoad) : PluginBundle × LoadView :=
  (load.bundle, load.outcome.view)

namespace PluginManager

variable {own : String → Prop} {first second : PluginManager}
  {firstFiles secondFiles : FileView}

/-- What sets a bundle apart from those with own ids, or makes it one of them. -/
structure SetApart (own : String → Prop) (other : PluginBundle → Bool)
    (firstFiles secondFiles : FileView) (bundle : PluginBundle) : Prop where
  owns : other bundle = false → ∀ manifest,
    bundle.manifest firstFiles = .ok manifest → own manifest.id
  same : other bundle = true → bundle.manifest firstFiles = bundle.manifest secondFiles
  others : other bundle = true → ∀ manifest,
    bundle.manifest firstFiles = .ok manifest → ¬ own manifest.id

/-- The other bundles of a scan are seen as if the ones with own ids were not there. -/
theorem seen_loadsOf {other : PluginBundle → Bool} {bundles : List PluginBundle}
    (alike : first.SameBut own second) (uniform : first.rules.factories.UniformInit)
    (apart : ∀ bundle ∈ bundles, SetApart own other firstFiles secondFiles bundle) :
    ((loadsOf firstFiles bundles first).filter (other ·.bundle)).map BundleLoad.seen =
      (loadsOf secondFiles (bundles.filter other) second).map BundleLoad.seen := by
  -- The managers change with every bundle, and stay the same but for own ids.
  induction bundles generalizing first second with
  | nil => rfl
  | cons bundle bundles ih =>
      have here := apart bundle List.mem_cons_self
      have later := fun bundle member => apart bundle (List.mem_cons_of_mem _ member)
      have keepsUniform :
          (first.loadBundle firstFiles bundle).manager.rules.factories.UniformInit := by
        rw [(first.loadBundle_takes firstFiles bundle).1.rules]
        exact uniform
      cases isOther : other bundle with
      | false =>
          simp only [loadsOf, List.filter_cons, isOther, Bool.false_eq_true, if_false]
          exact ih (alike.loadBundle_left (here.owns isOther)) keepsUniform later
      | true =>
          have sameView :=
            alike.view_loadBundle uniform (here.same isOther) (here.others isOther)
          have rest := ih (alike.loadBundle sameView) keepsUniform later
          simp only [loadsOf, List.filter_cons, isOther, if_true, List.map_cons, rest,
            BundleLoad.seen, sameView]

end PluginManager

/-! ### Directories that differ in one bundle -/

/-- Files whose directory at a path differs at most in what it has under one name. -/
structure DifferOnlyAt (directory name : String) (first second : FileView) : Prop where
  isName : Path.IsName name
  lists : ∃ firstEntries secondEntries,
    first.Lists directory firstEntries ∧ second.Lists directory secondEntries ∧
      ∀ other, other ≠ name →
        KeyedList.get? other firstEntries = KeyedList.get? other secondEntries

/-- The id of the bundle under a name, if there is one that can be read, is that of no other
bundle of the directory. -/
def Unshared (directory name : String) (files : FileView) : Prop :=
  ∀ names, files.names directory = .ok names → ∀ other ∈ names, other ≠ name →
    ∀ id, PluginBundle.idAt? files (Path.join directory name) = some id →
      PluginBundle.idAt? files (Path.join directory other) ≠ some id

/-- An id that the bundle under a name has in one of two views of the files. -/
def IsIdOf (directory name : String) (first second : FileView) (id : String) : Prop :=
  PluginBundle.idAt? first (Path.join directory name) = some id ∨
    PluginBundle.idAt? second (Path.join directory name) = some id

/-- Whether a bundle is another one than that under a name. -/
def PluginBundle.isBeside (directory name : String) (bundle : PluginBundle) : Bool :=
  bundle.path != Path.join directory name

namespace DifferOnlyAt

variable {directory name : String} {first second : FileView}

theorem symm (differ : DifferOnlyAt directory name first second) :
    DifferOnlyAt directory name second first := by
  obtain ⟨firstEntries, secondEntries, firstLists, secondLists, same⟩ := differ.lists
  exact ⟨differ.isName, secondEntries, firstEntries, secondLists, firstLists,
    fun other apart => (same other apart).symm⟩

theorem find_eq (differ : DifferOnlyAt directory name first second) {other : String}
    (isName : Path.IsName other) (apart : other ≠ name) :
    first.find (Path.join directory other) = second.find (Path.join directory other) := by
  obtain ⟨firstEntries, secondEntries, firstLists, secondLists, same⟩ := differ.lists
  rw [FileView.find_join firstLists.found isName, FileView.find_join secondLists.found isName,
    same other apart]

theorem filter_keys (differ : DifferOnlyAt directory name first second)
    {firstEntries secondEntries : KeyedList FileTree}
    (firstLists : first.Lists directory firstEntries)
    (secondLists : second.Lists directory secondEntries) :
    ((KeyedList.keys firstEntries).filter fun other => other != name) =
      (KeyedList.keys secondEntries).filter fun other => other != name := by
  obtain ⟨firstFound, secondFound, firstAgain, secondAgain, same⟩ := differ.lists
  obtain rfl := firstLists.entries_eq firstAgain
  obtain rfl := secondLists.entries_eq secondAgain
  exact KeyedList.filter_keys_eq firstLists.sorted secondLists.sorted same

theorem exists_names (differ : DifferOnlyAt directory name first second) {names : List String}
    (listed : first.names directory = .ok names) {other : String} (member : other ∈ names)
    (apart : other ≠ name) :
    ∃ otherNames, second.names directory = .ok otherNames ∧ other ∈ otherNames := by
  obtain ⟨firstEntries, secondEntries, firstLists, secondLists, same⟩ := differ.lists
  obtain rfl := Except.ok.inj (firstLists.names_eq.symm.trans listed)
  refine ⟨_, secondLists.names_eq, ?_⟩
  by_contra absent
  rw [← KeyedList.get?_eq_none_iff, ← same other apart, KeyedList.get?_eq_none_iff] at absent
  exact absent member

end DifferOnlyAt

theorem IsIdOf.not_shared {directory name : String} {first second : FileView}
    (differ : DifferOnlyAt directory name first second)
    (firstUnshared : Unshared directory name first)
    (secondUnshared : Unshared directory name second) {names : List String}
    (listed : first.names directory = .ok names) {other : String} (member : other ∈ names)
    (isName : Path.IsName other) (apart : other ≠ name) {id : String}
    (owned : IsIdOf directory name first second id) :
    PluginBundle.idAt? first (Path.join directory other) ≠ some id := by
  rcases owned with owned | owned
  · exact firstUnshared names listed other member apart id owned
  -- What is beside the bundle is the same in both views, so the other view decides as well.
  · obtain ⟨otherNames, otherListed, otherMember⟩ := differ.exists_names listed member apart
    rw [PluginBundle.idAt?_congr (differ.find_eq isName apart)]
    exact secondUnshared otherNames otherListed other otherMember apart id owned

namespace PluginBundle

theorem filter_isBeside {directory name : String} {files : FileView}
    {entries : KeyedList FileTree} (lists : files.Lists directory entries)
    (isName : Path.IsName name) :
    ((KeyedList.keys entries).filterMap fun other =>
        ofPath? files (Path.join directory other)).filter (isBeside directory name) =
      ((KeyedList.keys entries).filter fun other => other != name).filterMap fun other =>
        ofPath? files (Path.join directory other) := by
  rw [List.filter_filterMap, List.filterMap_filter]
  refine List.filterMap_congr fun other member => ?_
  cases found : ofPath? files (Path.join directory other) with
  | none => simp
  | some bundle =>
      have apart : isBeside directory name bundle = (other != name) := by
        rw [isBeside, path_of_ofPath? found, Bool.eq_iff_iff, bne_iff_ne, bne_iff_ne, ne_eq, ne_eq,
          (lists.named other member).join_inj isName lists.notEmpty]
      simp [Option.filter, apart]

end PluginBundle

/-- Beside the bundle under the name in which they differ, two directories have the same bundles in
the same order. -/
theorem PluginBundle.filter_isBeside_eq {directory name : String} {first second : FileView}
    {firstEntries secondEntries : KeyedList FileTree}
    (differ : DifferOnlyAt directory name first second)
    (firstLists : first.Lists directory firstEntries)
    (secondLists : second.Lists directory secondEntries) :
    ((KeyedList.keys firstEntries).filterMap fun other =>
        ofPath? first (Path.join directory other)).filter (isBeside directory name) =
      ((KeyedList.keys secondEntries).filterMap fun other =>
        ofPath? second (Path.join directory other)).filter (isBeside directory name) := by
  rw [filter_isBeside firstLists differ.isName, filter_isBeside secondLists differ.isName,
    differ.filter_keys firstLists secondLists]
  refine List.filterMap_congr fun other member => ?_
  obtain ⟨listed, apart⟩ := List.mem_filter.mp member
  exact ofPath?_congr (differ.find_eq (secondLists.named other listed) (by simpa using apart))

namespace PluginManager

variable {directory name : String} {own : String → Prop} {first second : PluginManager}
  {firstFiles secondFiles : FileView} {firstEntries secondEntries : KeyedList FileTree}

theorem SetApart.self {other : PluginBundle → Bool} {bundle : PluginBundle}
    (apart : SetApart own other firstFiles secondFiles bundle) :
    SetApart own other firstFiles firstFiles bundle :=
  ⟨apart.owns, fun _ => rfl, apart.others⟩

/-- A directory whose bundle under a name shares its id with no other one sets its bundles apart,
also from what the bundle may be replaced by. -/
theorem setApart_of_differ (differ : DifferOnlyAt directory name firstFiles secondFiles)
    (firstUnshared : Unshared directory name firstFiles)
    (secondUnshared : Unshared directory name secondFiles)
    (ownIds : ∀ id, own id ↔ IsIdOf directory name firstFiles secondFiles id)
    (lists : firstFiles.Lists directory firstEntries) :
    ∀ bundle ∈ (KeyedList.keys firstEntries).filterMap fun other =>
        PluginBundle.ofPath? firstFiles (Path.join directory other),
      SetApart own (PluginBundle.isBeside directory name) firstFiles secondFiles bundle := by
  intro bundle member
  obtain ⟨other, listed, found⟩ := List.mem_filterMap.mp member
  -- Either it is the bundle under the name itself, or one beside it.
  obtain rfl | apart := eq_or_ne other name
  · have inside : PluginBundle.isBeside directory other bundle = false := by
      simp [PluginBundle.isBeside, PluginBundle.path_of_ofPath? found]
    constructor
    · intro _ manifest read
      exact (ownIds _).mpr (.inl (PluginBundle.idAt?_of_manifest found read))
    · simp [inside]
    · simp [inside]
  · have beside : PluginBundle.isBeside directory name bundle = true := by
      rw [PluginBundle.isBeside, PluginBundle.path_of_ofPath? found, bne_iff_ne, ne_eq,
        (lists.named other listed).join_inj differ.isName lists.notEmpty]
      exact apart
    have sameFind := differ.find_eq (lists.named other listed) apart
    have path := PluginBundle.path_of_ofPath? found
    constructor
    · simp [beside]
    · intro _
      exact PluginBundle.manifest_congr (path ▸ sameFind) (path ▸ found)
    · intro _ manifest read owned
      exact ((ownIds _).mp owned).not_shared differ firstUnshared secondUnshared lists.names_eq
        listed (lists.named other listed) apart (PluginBundle.idAt?_of_manifest found read)

theorem filter_admitted {bundles : List PluginBundle} (path : String) :
    ((loadsOf firstFiles bundles first).filterMap BundleLoad.admitted?).filter
        (fun plugin => plugin.source != .bundle path) =
      ((loadsOf firstFiles bundles first).filter fun load => load.bundle.path != path).filterMap
        BundleLoad.admitted? := by
  rw [List.filter_filterMap, List.filterMap_filter]
  refine List.filterMap_congr fun load among => ?_
  cases admitted : load.admitted? with
  | none => simp
  | some plugin =>
      have same : (plugin.source != .bundle path) = (load.bundle.path != path) := by
        rw [source_of_mem_loadsOf among admitted, Bool.eq_iff_iff, bne_iff_ne, bne_iff_ne]
        simp
      simp [Option.filter, same]

theorem map_origin_admitted (loads : List BundleLoad) :
    (loads.filterMap BundleLoad.admitted?).map LoadedPlugin.origin =
      (loads.map BundleLoad.seen).filterMap fun seen => seen.2.verdict.toOption := by
  rw [List.map_filterMap, List.filterMap_map]
  refine List.filterMap_congr fun load _ => ?_
  rw [BundleLoad.admitted?, Function.comp_apply, BundleLoad.seen, Managed.view]
  cases load.outcome.result <;> rfl

theorem origins_loadDirectory (files : FileView) (manager : PluginManager)
    (directory path : String) :
    ((manager.loadDirectory files directory).manager.loaded.filter
        fun plugin => plugin.source != .bundle path).map LoadedPlugin.origin =
      (manager.loaded.filter fun plugin => plugin.source != .bundle path).map
          LoadedPlugin.origin ++
        (((manager.scan files directory).filter fun load => load.bundle.path != path).map
          BundleLoad.seen).filterMap fun seen => seen.2.verdict.toOption := by
  rw [(loadDirectory_eq_scan files manager directory).2.1, List.filter_append, List.map_append,
    ← map_origin_admitted, scan]
  split
  · rfl
  · rw [filter_admitted]

end PluginManager

/-- Two scans of a directory that differ in the bundle under one name, to which nothing else
happens differently. -/
structure IsolatedScans (directory name : String) (firstFiles secondFiles : FileView)
    (first second : PluginManager) : Prop where
  /-- The other bundles are found in the same order.  Each is admitted in both scans or refused
  with the same error in both, and its `init` is told the same. -/
  seen : ((first.scan firstFiles directory).filter
        fun load => load.bundle.path != Path.join directory name).map BundleLoad.seen =
      ((second.scan secondFiles directory).filter
        fun load => load.bundle.path != Path.join directory name).map BundleLoad.seen
  /-- The other plugins are loaded in the same order. -/
  loaded : ((first.loadDirectory firstFiles directory).manager.loaded.filter
        fun plugin => plugin.source != .bundle (Path.join directory name)).map
          LoadedPlugin.origin =
      ((second.loadDirectory secondFiles directory).manager.loaded.filter
        fun plugin => plugin.source != .bundle (Path.join directory name)).map
          LoadedPlugin.origin

namespace PluginManager

/-- A bundle of a directory may be replaced by anything: nothing changes for the other bundles, as
long as none of them has its id. -/
theorem loadDirectory_isolatedScans {directory name : String}
    {firstFiles secondFiles : FileView} {first second : PluginManager}
    (differ : DifferOnlyAt directory name firstFiles secondFiles)
    (firstUnshared : Unshared directory name firstFiles)
    (secondUnshared : Unshared directory name secondFiles)
    (loaded : first.loaded = second.loaded)
    (versions : first.rules.versions = second.rules.versions)
    (policy : first.rules.policy = second.rules.policy)
    (factories : first.rules.factories = second.rules.factories)
    (configs : ∀ id, ¬ IsIdOf directory name firstFiles secondFiles id →
      KeyedList.get? id first.rules.pluginConfig = KeyedList.get? id second.rules.pluginConfig)
    (uniform : first.rules.factories.UniformInit) :
    IsolatedScans directory name firstFiles secondFiles first second := by
  obtain ⟨firstEntries, secondEntries, firstLists, secondLists, same⟩ := differ.lists
  have alike : first.SameBut (IsIdOf directory name firstFiles secondFiles) second :=
    ⟨versions, policy, factories, configs, fun _ _ => by rw [loadedIds, loadedIds, loaded]⟩
  have firstApart := setApart_of_differ differ firstUnshared secondUnshared (fun _ => Iff.rfl)
    firstLists
  have secondApart := setApart_of_differ differ.symm secondUnshared firstUnshared
    (fun _ => Or.comm) secondLists
  -- Without the bundle under the name, both scans are the second one without it.
  have seen : ((first.scan firstFiles directory).filter
        fun load => load.bundle.path != Path.join directory name).map BundleLoad.seen =
      ((second.scan secondFiles directory).filter
        fun load => load.bundle.path != Path.join directory name).map BundleLoad.seen := by
    rw [scan, scan, PluginBundle.discover_of_lists firstLists,
      PluginBundle.discover_of_lists secondLists]
    refine (seen_loadsOf alike uniform firstApart).trans ?_
    rw [PluginBundle.filter_isBeside_eq differ firstLists secondLists]
    exact (seen_loadsOf (.refl _ second) (factories ▸ uniform)
      fun bundle member => (secondApart bundle member).self).symm
  refine ⟨seen, ?_⟩
  rw [origins_loadDirectory, origins_loadDirectory, seen, loaded]

/-- A broken bundle is replaced by one that is admitted, and the bundle beside it is admitted
both times. -/
theorem loadDirectory_isolatedScans_replaced :
    let text (id : String) : List UInt8 := Text.encode ("\x7b\"id\":\"" ++ id ++
      "\",\"version\":\"1.0.0\",\"apiVersion\":\"1.0.0\",\"implementation\":\"k\"\x7d")
    let bundle (text : List UInt8) : FileTree := .directory [("plugin.json", .file text)]
    let files (replaced : List UInt8) : FileView :=
      ⟨.directory [("d", .directory [("a", bundle (text "a")), ("b", bundle replaced)])], "/"⟩
    let firstFiles := files []
    let secondFiles := files (text "b")
    let plugin : Plugin := ⟨fun _ => .succeeded, fun _ => [], fun _ => .succeeded⟩
    let rules : AdmissionRules := ⟨.current, ⟨[]⟩, ⟨[("k", fun _ => plugin)]⟩, []⟩
    let manager := new rules
    DifferOnlyAt "/d" "b" firstFiles secondFiles ∧
      Unshared "/d" "b" firstFiles ∧ Unshared "/d" "b" secondFiles ∧
        rules.factories.UniformInit ∧
          IsolatedScans "/d" "b" firstFiles secondFiles manager manager ∧
            (manager.loadDirectory firstFiles "/d").result = 1 ∧
              (manager.loadDirectory secondFiles "/d").result = 2 := by
  intro text bundle files firstFiles secondFiles plugin rules manager
  have isName : Path.IsName "b" := by constructor <;> decide
  have lists (replaced : List UInt8) : (files replaced).Lists "/d"
      [("a", bundle (text "a")), ("b", bundle replaced)] := by
    have pieces : Path.pieces (Path.join "/" "/d") = ["", "d"] := by decide +kernel
    have located : (files replaced).root.locate "/" "/d" = .ok ["d"] := by
      rw [FileTree.locate_eq (by decide) pieces (by simp)]
      rfl
    have inOrder : "a" < "b" := by decide
    refine ⟨by rw [FileView.find, FileTree.find, located]; rfl, List.pairwise_pair.mpr inOrder, ?_⟩
    intro name member
    rcases List.mem_pair.mp member with rfl | rfl
    · constructor <;> decide
    · exact isName
  have differ : DifferOnlyAt "/d" "b" firstFiles secondFiles := by
    refine ⟨isName, _, _, lists [], lists (text "b"), fun other apart => ?_⟩
    simp [KeyedList.get?_cons, Ne.symm apart]
  have firstUnshared : Unshared "/d" "b" firstFiles := by
    intro names listed other member apart id owned
    have unread : PluginBundle.idAt? firstFiles (Path.join "/d" "b") = none := by decide +kernel
    rw [unread] at owned
    cases owned
  have secondUnshared : Unshared "/d" "b" secondFiles := by
    intro names listed other member apart id owned
    have ids : PluginBundle.idAt? secondFiles (Path.join "/d" "a") = some "a" ∧
        PluginBundle.idAt? secondFiles (Path.join "/d" "b") = some "b" := by
      decide +kernel
    obtain rfl := Except.ok.inj ((lists (text "b")).names_eq.symm.trans listed)
    obtain rfl := Option.some.inj (ids.2.symm.trans owned)
    rcases List.mem_pair.mp member with rfl | rfl
    · rw [ids.1]
      decide
    · exact absurd rfl apart
  have uniform : rules.factories.UniformInit := by
    intro key first second firstPlugin secondPlugin firstMade secondMade context
    obtain ⟨made, found, rfl⟩ := Option.map_eq_some_iff.mp firstMade
    obtain ⟨remade, refound, rfl⟩ := Option.map_eq_some_iff.mp secondMade
    obtain rfl := Option.some.inj (found.symm.trans refound)
    cases List.mem_singleton.mp (KeyedList.mem_of_get? found)
    rfl
  exact ⟨differ, firstUnshared, secondUnshared, uniform,
    loadDirectory_isolatedScans differ firstUnshared secondUnshared rfl rfl rfl rfl
      (fun _ _ => rfl) uniform, by decide +kernel, by decide +kernel⟩

end PluginManager

end PluginHost
