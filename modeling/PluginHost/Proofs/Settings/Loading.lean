import PluginHost.Proofs.Files.Upwards
import PluginHost.Proofs.Settings.Extraction
import PluginHost.Proofs.Settings.Ordered

/-!
# Which layer states a setting

The settings of the host are what the deep merge of the defaults, the settings files and the
environment states.  Every single setting has the value that the topmost layer with one gives it,
and keeps its default if there is none; so does every value that a plugin is configured with.
With a given file the other settings files are not even looked at.
-/

namespace PluginHost

/-! ### Merging layers -/

namespace SettingsLayer

/-- What is wrong with a layer. -/
def fault? : SettingsLayer → Option SettingsFault
  | .ok _ => none
  | .error fault => some fault

/-- What is wrong with layers, last layer first. -/
def faults (layers : List SettingsLayer) : List SettingsFault :=
  (layers.filterMap fault?).reverse

variable {first : Setting} {layers : List SettingsLayer} {trees : List Setting}

theorem merge_append (first : Setting) (layers : List SettingsLayer) (last : SettingsLayer) :
    merge first (layers ++ [last]) =
      match merge first layers, last with
      | .ok earlier, .ok later => .ok (later.laidOver earlier)
      | .ok _, .error fault => .error [fault]
      | .error faults, .ok _ => .error faults
      | .error faults, .error fault => .error (fault :: faults) := by
  rw [merge, merge, List.foldl_append]
  rfl

theorem faults_append (layers : List SettingsLayer) (last : SettingsLayer) :
    faults (layers ++ [last]) = last.fault?.toList ++ faults layers := by
  rw [faults, List.filterMap_append, List.reverse_append, faults]
  cases last <;> rfl

theorem merge_map_ok (first : Setting) (trees : List Setting) :
    merge first (trees.map .ok) = .ok (Setting.stacked first trees) := by
  induction trees using List.reverseRecOn with
  | nil => rfl
  | append_singleton trees last ih =>
      rw [List.map_append, List.map_singleton, merge_append, ih, Setting.stacked_append]

/-- Layers are merged if nothing is wrong with them, and else all that is wrong is told. -/
theorem merge_cases (first : Setting) (layers : List SettingsLayer) :
    (∃ trees : List Setting, layers = trees.map .ok ∧ faults layers = []) ∨
      (faults layers ≠ [] ∧ merge first layers = .error (faults layers)) := by
  induction layers using List.reverseRecOn with
  | nil => exact .inl ⟨[], rfl, rfl⟩
  | append_singleton layers last ih =>
      rw [merge_append, faults_append]
      rcases ih with ⟨trees, rfl, silent⟩ | ⟨told, merged⟩
      · rw [silent, merge_map_ok]
        cases last with
        | ok later => exact .inl ⟨trees ++ [later], by simp, rfl⟩
        | error fault => exact .inr ⟨by simp [fault?], rfl⟩
      · rw [merged]
        cases last with
        | ok later => exact .inr ⟨told, rfl⟩
        | error fault => exact .inr ⟨by simp [fault?], rfl⟩

theorem merge_of_faults (told : faults layers ≠ []) :
    merge first layers = .error (faults layers) := by
  rcases merge_cases first layers with ⟨trees, rfl, silent⟩ | ⟨-, merged⟩
  · exact absurd silent told
  · exact merged

end SettingsLayer

/-! ### Settings of layers -/

namespace HostSettings

open Setting

/-- How the settings that are read from trees over the defaults depend on them; the last tree is
the topmost one. -/
structure StatedBy (trees : List Setting) (read : Except (List SettingsFault) HostSettings) :
    Prop where
  /-- The settings are read from the deep merge of the trees, which has at every plain path what
  the topmost tree has there. -/
  extracted : ∃ tree, DeepMerges defaultTree trees tree ∧
    read = ((ofTree tree).mapError fun fault => [.refused fault]) ∧
    ∀ path, (∀ layer ∈ defaultTree :: trees, Plain path layer) → ∀ setting,
      tree.at? path = some setting ↔ Topmost (defaultTree :: trees) path setting
  /-- A single setting has the value that the topmost tree with one gives it. -/
  stated : ∀ settings, read = .ok settings → ∀ leaf ∈ leaves,
    (∀ tree ∈ trees, Plain leaf.path tree) → ∀ setting, Topmost trees leaf.path setting →
      leaf.read setting = .ok (leaf.get settings)
  /-- A single setting that no tree has keeps its default. -/
  unstated : ∀ settings, read = .ok settings → ∀ leaf ∈ leaves,
    (∀ tree ∈ trees, Plain leaf.path tree) → (∀ tree ∈ trees, tree.at? leaf.path = none) →
      leaf.get settings = leaf.get {}
  /-- What plugins are configured with is what the topmost tree has there, and nothing else. -/
  configured : ∀ settings, read = .ok settings → ∀ id path,
    (∀ tree ∈ trees, Plain ("plugins" :: "config" :: id :: path) tree) → ∀ value,
      (Json.object settings.plugins.config).at? (id :: path) = some value ↔
        ∃ setting, Topmost trees ("plugins" :: "config" :: id :: path) setting ∧
          setting.toJson = value

variable {trees : List Setting} {settings : HostSettings}

theorem ofLayers_map_ok (trees : List Setting) :
    ofLayers (trees.map .ok) =
      (ofTree (stacked defaultTree trees)).mapError fun fault => [.refused fault] := by
  rw [ofLayers, SettingsLayer.merge_map_ok]

theorem ofTree_of_ofLayers (read : ofLayers (trees.map .ok) = .ok settings) :
    ofTree (stacked defaultTree trees) = .ok settings := by
  rw [ofLayers_map_ok] at read
  cases extracted : ofTree (stacked defaultTree trees) with
  | error fault =>
      rw [extracted] at read
      cases read
  | ok found =>
      rw [extracted] at read
      exact congrArg _ (Except.ok.inj read)

theorem read_of_topmost (ordered : ∀ tree ∈ trees, tree.Ordered)
    (read : ofLayers (trees.map .ok) = .ok settings) {leaf : HostLeaf} (member : leaf ∈ leaves)
    (plain : ∀ tree ∈ trees, Plain leaf.path tree) {setting : Setting}
    (topmost : Topmost (defaultTree :: trees) leaf.path setting) :
    leaf.read setting = .ok (leaf.get settings) := by
  have stacked_iff := at?_stacked_iff ordered (plain_defaultTree_of_mem_leaves member) plain setting
  exact read_of_mem_leaves member (ordered_stacked ordered_defaultTree ordered)
    (ofTree_of_ofLayers read) (stacked_iff.1.mpr topmost)

theorem statedBy_ofLayers (ordered : ∀ tree ∈ trees, tree.Ordered) :
    StatedBy trees (ofLayers (trees.map .ok)) where
  extracted := by
    refine ⟨stacked defaultTree trees, deepMerges_stacked ordered_defaultTree ordered,
      ofLayers_map_ok trees, ?_⟩
    intro path plain setting
    obtain ⟨defaultPlain, plain⟩ := List.forall_mem_cons.mp plain
    exact (at?_stacked_iff ordered defaultPlain plain setting).1
  stated settings read leaf member plain setting topmost :=
    read_of_topmost ordered read member plain ((topmost_cons_iff _ _ _ _).mpr (.inl topmost))
  unstated settings read leaf member plain silent := by
    obtain ⟨setting, default, -⟩ := exists_default_of_mem_leaves member
    have kept : leaf.read setting = .ok (leaf.get settings) :=
      read_of_topmost ordered read member plain
        ((topmost_cons_iff _ _ _ _).mpr (.inr ⟨silent, default⟩))
    -- The default is what the same field reads from the defaults alone.
    have before := read_of_mem_leaves member ordered_defaultTree ofTree_defaultTree default
    exact Except.ok.inj (kept.symm.trans before)
  configured settings read id path plain value := by
    have defaultPlain := plain_defaultTree_config id path
    have stacked_iff := at?_stacked_iff ordered defaultPlain plain
    rw [at?_config (stacked_iff (defaultTree)).2 (ordered_stacked ordered_defaultTree ordered)
      (ofTree_of_ofLayers read), Option.map_eq_some_iff]
    refine exists_congr fun setting => and_congr_left' ?_
    rw [(stacked_iff setting).1, topmost_cons_iff, at?_defaultTree_config]
    simp

/-- How settings depend on the layers that they are read from. -/
structure Layered (layers : List SettingsLayer)
    (read : Except (List SettingsFault) HostSettings) : Prop where
  /-- If something is wrong with layers, all of it is told and no settings are read. -/
  faulty : SettingsLayer.faults layers ≠ [] → read = .error (SettingsLayer.faults layers)
  /-- If nothing is wrong with layers, each of them counts as the tree that it states. -/
  stated : SettingsLayer.faults layers = [] →
    ∃ trees : List Setting, layers = trees.map .ok ∧ StatedBy trees read

theorem layered_ofLayers {layers : List SettingsLayer}
    (ordered : ∀ tree, .ok tree ∈ layers → tree.Ordered) : Layered layers (ofLayers layers) where
  faulty told := by
    rw [ofLayers, SettingsLayer.merge_of_faults told]
  stated silent := by
    rcases SettingsLayer.merge_cases defaultTree layers with ⟨trees, rfl, -⟩ | ⟨told, -⟩
    · exact ⟨trees, rfl, statedBy_ofLayers fun tree member =>
        ordered tree (List.mem_map_of_mem member)⟩
    · exact absurd silent told

-- The port comes from the environment, the host from the text below it, the rest by default.
example :
    let text : SettingsLayer := .ofText .inline "[server]\nport = 8080\nhost = \"::1\"\n"
    let environment : Environment := [("TOOLGATE_SERVER_PORT", "8081")]
    (ofLayers [text, .ok environment.tree]).toOption.map (fun settings =>
      (settings.server.host, settings.server.listenPort, settings.server.toolTimeout)) =
    some ("::1", 8081, 30000) := by
  decide +kernel

end HostSettings

/-! ### Layers of files -/

namespace SettingsLayer

/-- The layer that is read from a path: what the file states under which the path is found, or
nothing if it is not found. -/
inductive OfPath (files : FileView) (path : String) : SettingsLayer → Prop where
  | stated {found text : String} (located : Surroundings.Locates files path found)
      (reads : files.readText found = .ok text) : OfPath files path (ofText (.file found) text)
  | unreadable {found : String} {problem : FileProblem}
      (located : Surroundings.Locates files path found)
      (reads : files.readText found = .error problem) :
      OfPath files path (.error (.notText (.file found)))
  | nowhere (missing : ∀ found, ¬ Surroundings.Locates files path found) :
      OfPath files path (.ok (.table .builtin []))

theorem ofFile_of_found {files : FileView} {path found : String}
    (looked : Surroundings.findUpwards? files path = some found) :
    ofFile files path =
      match files.readText found with
      | .ok text => ofText (.file found) text
      | .error _ => .error (.notText (.file found)) := by
  cases reads : files.readText found <;> simp only [ofFile, looked, reads]

theorem ofPath_ofFile (files : FileView) (path : String) :
    OfPath files path (ofFile files path) := by
  cases looked : Surroundings.findUpwards? files path with
  | none =>
      rw [ofFile, looked]
      refine .nowhere fun found located => ?_
      rw [Surroundings.findUpwards?_eq_some_iff.mpr located] at looked
      cases looked
  | some found =>
      have located := Surroundings.findUpwards?_eq_some_iff.mp looked
      rw [ofFile_of_found looked]
      cases reads : files.readText found with
      | error problem => exact .unreadable located reads
      | ok text => exact .stated located reads

/-- The layer of a file that a path leads to. -/
inductive OfGiven (files : FileView) (path : String) : SettingsLayer → Prop where
  | stated {found text : String} (same : files.find found = files.find path)
      (reads : files.readText path = .ok text) : OfGiven files path (ofText (.file found) text)
  | unreadable {found : String} {problem : FileProblem} (same : files.find found = files.find path)
      (reads : files.readText path = .error problem) :
      OfGiven files path (.error (.notText (.file found)))

theorem ofGiven_ofFile {files : FileView} {path : String} (isFile : files.isFile path = true) :
    OfGiven files path (ofFile files path) := by
  obtain ⟨found, looked, same, -⟩ := Surroundings.findUpwards?_of_isFile isFile
  rw [ofFile_of_found looked]
  have sameText := FileView.readText_congr same
  cases reads : files.readText found with
  | error problem => exact .unreadable same (sameText.symm.trans reads)
  | ok text => exact .stated same (sameText.symm.trans reads)

/-- The layer of a file that a path leads to depends on nothing but the file. -/
theorem ofFile_congr {files other : FileView} {path : String}
    (isFile : files.isFile path = true) (same : other.find path = files.find path)
    (sameDirectory : other.workingDirectory = files.workingDirectory) :
    ofFile other path = ofFile files path := by
  obtain ⟨found, looked, sameFound, found_eq⟩ := Surroundings.findUpwards?_of_isFile isFile
  obtain ⟨otherFound, otherLooked, otherSame, otherFound_eq⟩ :=
    Surroundings.findUpwards?_of_isFile ((FileView.isFile_congr same).trans isFile)
  rw [sameDirectory, ← found_eq] at otherFound_eq
  obtain rfl := otherFound_eq
  have sameText : other.readText otherFound = files.readText otherFound :=
    FileView.readText_congr (otherSame.trans (same.trans sameFound.symm))
  rw [ofFile_of_found otherLooked, ofFile_of_found looked, sameText]

end SettingsLayer

/-! ### The environment -/

/-- The tree that a variable states, if it is one of the host's. -/
def Environment.statedTree? (entry : String × String) : Option Setting :=
  (settingPath? entry.1).map fun path => nested path (SettingNotation.read entry.2)

theorem Environment.ordered_of_statedTree? {entry : String × String} {stated : Setting}
    (states : statedTree? entry = some stated) : stated.Ordered := by
  obtain ⟨path, -, rfl⟩ := Option.map_eq_some_iff.mp states
  exact ordered_nested path (SettingNotation.ordered_read entry.2)

theorem Environment.tree_eq_stacked (environment : Environment) :
    environment.tree =
      Setting.stacked (.table .environment []) (environment.filterMap statedTree?) := by
  rw [Setting.stacked, List.foldl_filterMap, tree]
  congr
  funext stated entry
  rw [statedTree?]
  cases settingPath? entry.1 <;> rfl

/-- The layer of the environment is the deep merge of what its variables state. -/
theorem Environment.deepMerges_tree (environment : Environment) :
    Setting.DeepMerges (.table .environment []) (environment.filterMap statedTree?)
      environment.tree := by
  rw [tree_eq_stacked]
  refine Setting.deepMerges_stacked (Setting.ordered_empty .environment) fun stated member => ?_
  obtain ⟨entry, -, states⟩ := List.mem_filterMap.mp member
  exact ordered_of_statedTree? states

/-! ### Loading -/

namespace HostSettings

open Surroundings

/-- The paths of the settings files, from the bottom to the top. -/
def hierarchy (surroundings : Surroundings) : List String :=
  systemFile :: surroundings.userFile?.toList ++ [settingsFileName]

theorem layers_eq (surroundings : Surroundings) :
    layers surroundings =
      (hierarchy surroundings).map (SettingsLayer.ofFile surroundings.files) ++
        [.ok surroundings.environment.tree] := by
  simp [layers, hierarchy]

theorem ordered_of_mem_files (files : FileView) (paths : List String)
    (environment : Environment) (tree : Setting)
    (member : .ok tree ∈ paths.map (SettingsLayer.ofFile files) ++ [.ok environment.tree]) :
    tree.Ordered := by
  rcases List.mem_append.mp member with ofFile | ofEnvironment
  · obtain ⟨path, -, stated⟩ := List.mem_map.mp ofFile
    exact SettingsLayer.ordered_ofFile stated
  · obtain rfl := Except.ok.inj (List.mem_singleton.mp ofEnvironment)
    exact environment.ordered_tree

/-- Texts that unknown keys are looked up in are there only if the file is. -/
theorem textOfFile_of_missing {files : FileView} {path : String}
    (missing : files.isFile path = false) (name : String) : textOfFile files name path = [] := by
  rw [textOfFile, FileView.readText, FileView.readBytes]
  rw [FileView.isFile] at missing
  cases found : files.find path with
  | error problem => rfl
  | ok tree =>
      cases tree with
      | directory entries => rfl
      | file bytes => simp [found] at missing

/-- How the settings of a host depend on the settings files and on the environment. -/
structure LoadsLayered (surroundings : Surroundings) : Prop where
  /-- The settings are read from the files of the hierarchy and from the environment, which comes
  last, and are then checked. -/
  hierarchical : ∃ fileLayers read,
    List.Forall₂ (SettingsLayer.OfPath surroundings.files) (hierarchy surroundings) fileLayers ∧
      Layered (fileLayers ++ [.ok surroundings.environment.tree]) read ∧
      ofSurroundings surroundings =
        checked surroundings.files.workingDirectory (texts surroundings) read
  /-- The environment states what its variables do. -/
  environment : Setting.DeepMerges (.table .environment [])
    (surroundings.environment.filterMap Environment.statedTree?) surroundings.environment.tree
  /-- A given file takes the place of the files of the hierarchy. -/
  given : ∀ path, surroundings.files.isFile path = true → ∃ fileLayer read,
    SettingsLayer.OfGiven surroundings.files path fileLayer ∧
      Layered [fileLayer, .ok surroundings.environment.tree] read ∧
      ofFile surroundings path =
        checked surroundings.files.workingDirectory
          (textOfFile surroundings.files (surroundings.files.canonical path) path) read
  /-- No settings are read if the given file is missing. -/
  missing : ∀ path, surroundings.files.isFile path = false →
    ofFile surroundings path =
      .error [(SettingsFault.missingFile path).diagnostic surroundings.files.workingDirectory []]
  /-- No file but the given one has any influence. -/
  alone : ∀ path (other : Surroundings), other.environment = surroundings.environment →
    other.files.workingDirectory = surroundings.files.workingDirectory →
    other.files.find path = surroundings.files.find path →
      ofFile other path = ofFile surroundings path

theorem ofFile_of_isFile {surroundings : Surroundings} {path : String}
    (isFile : surroundings.files.isFile path = true) :
    ofFile surroundings path =
      checked surroundings.files.workingDirectory
        (textOfFile surroundings.files (surroundings.files.canonical path) path)
        (ofLayers [.ofFile surroundings.files path, .ok surroundings.environment.tree]) := by
  simp only [ofFile, isFile, if_true]

theorem ofFile_of_missing {surroundings : Surroundings} {path : String}
    (missing : surroundings.files.isFile path = false) :
    ofFile surroundings path =
      .error [(SettingsFault.missingFile path).diagnostic surroundings.files.workingDirectory []] :=
    by
  simp [ofFile, missing, textOfFile_of_missing missing, checked]

theorem ofFile_congr {surroundings other : Surroundings} {path : String}
    (sameEnvironment : other.environment = surroundings.environment)
    (sameDirectory : other.files.workingDirectory = surroundings.files.workingDirectory)
    (same : other.files.find path = surroundings.files.find path) :
    ofFile other path = ofFile surroundings path := by
  have sameFile := FileView.isFile_congr same
  cases isFile : surroundings.files.isFile path with
  | false =>
      rw [ofFile_of_missing isFile, ofFile_of_missing (sameFile.trans isFile), sameDirectory]
  | true =>
      rw [ofFile_of_isFile isFile, ofFile_of_isFile (sameFile.trans isFile), sameDirectory,
        sameEnvironment, SettingsLayer.ofFile_congr isFile same sameDirectory, textOfFile,
        FileView.readText_congr same, FileView.canonical_congr same sameDirectory isFile]
      rfl

/-- Settings are what the topmost of their layers states; a given file takes the place of all
others. -/
theorem loadsLayered (surroundings : Surroundings) : LoadsLayered surroundings where
  hierarchical := by
    refine ⟨(hierarchy surroundings).map (SettingsLayer.ofFile surroundings.files),
      ofLayers (layers surroundings), ?_, ?_, rfl⟩
    · rw [List.forall₂_map_right_iff, List.forall₂_same]
      exact fun path _ => SettingsLayer.ofPath_ofFile surroundings.files path
    · rw [layers_eq]
      exact layered_ofLayers (ordered_of_mem_files _ _ surroundings.environment)
  environment := surroundings.environment.deepMerges_tree
  given path isFile :=
    ⟨.ofFile surroundings.files path, _, SettingsLayer.ofGiven_ofFile isFile,
      layered_ofLayers (ordered_of_mem_files surroundings.files [path] surroundings.environment),
      ofFile_of_isFile isFile⟩
  missing _ missing := ofFile_of_missing missing
  alone _ _ sameEnvironment sameDirectory same :=
    ofFile_congr sameEnvironment sameDirectory same

end HostSettings

end PluginHost
