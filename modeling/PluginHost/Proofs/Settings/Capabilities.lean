import PluginHost.Proofs.Capability.Refusal
import PluginHost.Proofs.Settings.Ordered
import PluginHost.Proofs.Settings.Restating
import PluginHost.Proofs.Text.Blank
import PluginHost.Proofs.Text.Pieces

/-!
# Allowed capabilities, however they are stated

The allowed capabilities are stated as one text with commas or as a list of texts.  Either way they
are the pieces without the white space at their ends, and blank pieces count for nothing, so that the
same pieces make the same policy, in which cleaning them a second time changes nothing.
-/

namespace PluginHost

open Text

/-! ### Cleaned capabilities -/

namespace CapabilityPolicy

theorem ofList_cleaned (items : List String) : ofList (cleaned items) = ofList items := by
  have again : cleaned (cleaned items) = cleaned items := by
    rw [cleaned, List.map_congr_left (g := id), List.map_id, cleaned, List.filter_filter]
    · simp
    · intro capability member
      obtain ⟨item, -, rfl⟩ := (mem_cleaned.mp member).2
      exact trim_trim item
  rw [ofList, ofList, again]

theorem isDevMode_ofList_iff (items : List String) :
    (ofList items).isDevMode = true ↔ ∀ item ∈ items, isBlankText item = true := by
  rw [isDevMode, List.isEmpty_iff, List.eq_nil_iff_forall_not_mem]
  simp only [mem_allowed_ofList, ← trim_eq_empty_iff]
  constructor
  · intro nothing item member
    by_contra notBlank
    exact nothing _ ⟨notBlank, item, member, rfl⟩
  · rintro blank capability ⟨notBlank, item, member, rfl⟩
    exact notBlank (blank item member)

end CapabilityPolicy

/-! ### Statements of capabilities -/

namespace Setting

/-- A setting that is a text. -/
def IsText (setting : Setting) (text : String) : Prop :=
  ∃ source, setting = .scalar source (.text text)

/-- A setting that states capabilities piece by piece: a text that has them between its commas, or a
list of texts. -/
inductive ListsCapabilities : Setting → List String → Prop where
  | text {source : SettingSource} {written : String} {pieces : List String}
      (cut : IsCutInto ',' written pieces) : ListsCapabilities (.scalar source (.text written)) pieces
  | list {source : SettingSource} {items : List Setting} {pieces : List String}
      (texts : List.Forall₂ IsText items pieces) : ListsCapabilities (.list source items) pieces

/-- What a tree states as the allowed capabilities. -/
def capabilities? (tree : Setting) : Option Setting :=
  (tree.at? ["plugins"]).bind (PluginSettings.form.stated? "allowed_capabilities")

/-- A tree with another setting in the place of what it states as the allowed capabilities. -/
def withCapabilities (tree capabilities : Setting) : Setting :=
  match tree.at? ["plugins"] with
  | some plugins =>
    HostSettings.form.restate "plugins"
      (PluginSettings.form.restate "allowed_capabilities" capabilities plugins) tree
  | none => tree

theorem at?_of_capabilities? {tree stated : Setting} (states : tree.capabilities? = some stated) :
    ∃ plugins, tree.at? ["plugins"] = some plugins ∧
      PluginSettings.form.stated? "allowed_capabilities" plugins = some stated := by
  simpa only [capabilities?, Option.bind_eq_some_iff] using states

/-- A key at the top is what the tree states for the section of that key. -/
theorem stated?_of_at? {tree plugins : Setting} (found : tree.at? ["plugins"] = some plugins) :
    HostSettings.form.stated? "plugins" tree = some plugins := by
  cases tree with
  | table source entries => simpa [at?, SectionForm.stated?] using found
  | list => cases found
  | scalar => cases found

theorem capabilities?_withCapabilities {tree : Setting} (states : tree.capabilities?.isSome = true)
    (capabilities : Setting) :
    (tree.withCapabilities capabilities).capabilities? = some capabilities := by
  obtain ⟨stated, states⟩ := Option.isSome_iff_exists.mp states
  obtain ⟨plugins, found, inside⟩ := at?_of_capabilities? states
  cases tree with
  | table source entries =>
      rw [withCapabilities, found]
      simp only [SectionForm.restate, capabilities?, at?, KeyedList.get?_insert, if_pos,
        Option.bind_some]
      exact SectionForm.stated?_restate (by rw [inside]; rfl)
  | list => cases found
  | scalar => cases found

theorem Ordered.at? {tree part : Setting} {key : String} (ordered : tree.Ordered)
    (found : tree.at? [key] = some part) : part.Ordered := by
  cases ordered with
  | scalar => cases found
  | list => cases found
  | @table source entries sorted inside =>
      have held : KeyedList.get? key entries = some part := by simpa [Setting.at?] using found
      exact inside _ (KeyedList.mem_of_get? held)

theorem mapM_asText?_eq_some_iff {items : List Setting} {texts : List String} :
    items.mapM asText? = some texts ↔ List.Forall₂ IsText items texts := by
  have text (setting : Setting) (text : String) :
      setting.asText? = some text ↔ setting.IsText text := by
    unfold asText?
    split
    · simp [IsText]
    · next other =>
        refine iff_of_false nofun ?_
        rintro ⟨source, rfl⟩
        exact other source text rfl
  induction items generalizing texts with
  | nil => simp [eq_comm]
  | cons item items ih =>
      simp only [List.mapM_cons, Option.bind_eq_bind, Option.bind_eq_some_iff, Option.pure_def,
        Option.some.injEq, text, ih, List.forall₂_cons_left_iff]
      constructor
      · rintro ⟨first, isText, others, texts, rfl⟩
        exact ⟨first, others, isText, texts, rfl⟩
      · rintro ⟨first, others, isText, texts, rfl⟩
        exact ⟨first, isText, others, texts, rfl⟩

/-- What is read of a statement are its pieces, cleaned, and nothing else is a statement. -/
theorem readCapabilities_eq_ok_iff {setting : Setting} {names : List String} :
    setting.readCapabilities = .ok names ↔
      ∃ pieces, setting.ListsCapabilities pieces ∧ CapabilityPolicy.cleaned pieces = names := by
  constructor
  · intro reads
    unfold readCapabilities at reads
    split at reads
    · exact ⟨_, .text (isCutInto_iff.mpr rfl), Except.ok.inj reads⟩
    · next items =>
        cases texts : items.mapM asText? with
        | none =>
            rw [texts] at reads
            cases reads
        | some pieces =>
            rw [texts] at reads
            exact ⟨pieces, .list (mapM_asText?_eq_some_iff.mp texts), Except.ok.inj reads⟩
    · cases reads
  · rintro ⟨pieces, lists, rfl⟩
    cases lists with
    | text cut => rw [readCapabilities, isCutInto_iff.mp cut]
    | list texts => rw [readCapabilities, mapM_asText?_eq_some_iff.mpr texts]

end Setting

/-! ### Settings with other capabilities -/

open CapabilityPolicy

/-- Settings of the plugins with the capabilities that pieces of a statement come to. -/
def PluginSettings.allowing (pieces : List String) (settings : PluginSettings) : PluginSettings :=
  { settings with allowedCapabilities := cleaned pieces }

/-- The settings of the host with such settings of the plugins. -/
def HostSettings.allowing (pieces : List String) (settings : HostSettings) : HostSettings :=
  { settings with plugins := settings.plugins.allowing pieces }

theorem PluginSettings.differ {first second : Setting} {pieces others : List String}
    (lists : first.ListsCapabilities pieces) (also : second.ListsCapabilities others) :
    form.Differ "allowed_capabilities" (allowing pieces) first second where
  known := by decide
  distinct := by decide
  own := by
    have firstReads := Setting.readCapabilities_eq_ok_iff.mpr ⟨pieces, lists, rfl⟩
    have secondReads := Setting.readCapabilities_eq_ok_iff.mpr ⟨others, also, rfl⟩
    simp [form, SettingField.of, firstReads, secondReads, Except.map, allowing]
  others := by
    intro field member apart setting stated
    simp only [form, List.mem_cons, List.not_mem_nil, or_false] at member
    rcases member with rfl | rfl | rfl
    · apply SettingField.set_change
      intros
      rfl
    · exact absurd rfl apart
    · apply SettingField.set_change
      intros
      rfl

namespace HostSettings

variable {tree first second : Setting} {pieces others : List String} {settings : HostSettings}

theorem differ
    (alike : PluginSettings.form.read {} first =
      (PluginSettings.form.read {} second).map (PluginSettings.allowing pieces)) :
    form.Differ "plugins" (allowing pieces) first second where
  known := by decide
  distinct := by decide
  own := by
    simp only [form, SettingField.of, List.forall_mem_cons, alike]
    cases PluginSettings.form.read {} second <;> simp [Except.map, allowing]
  others := by
    intro field member apart setting stated
    simp only [form, List.mem_cons, List.not_mem_nil, or_false] at member
    rcases member with rfl | rfl | rfl | rfl
    · apply SettingField.set_change
      intros
      rfl
    · exact absurd rfl apart
    · apply SettingField.set_change
      intros
      rfl
    · apply SettingField.set_change
      intros
      rfl

/-- How the allowed capabilities of a tree are read, whichever way they are stated in it. -/
structure ReadsCapabilitiesAlike (tree : Setting) : Prop where
  /-- The tree is one of those in which something is stated in their place. -/
  own : ∀ stated, tree.capabilities? = some stated → tree.withCapabilities stated = tree
  stated : ∀ capabilities,
    (tree.withCapabilities capabilities).capabilities? = some capabilities
  text : ∀ source written settings,
    ofTree (tree.withCapabilities (.scalar source (.text written))) = .ok settings →
      settings.plugins.policy = .ofCommaSeparated written
  list : ∀ source items names settings, List.Forall₂ Setting.IsText items names →
    ofTree (tree.withCapabilities (.list source items)) = .ok settings →
      settings.plugins.policy = .ofList names
  /-- It makes no difference whether the pieces stand in a text or in a list. -/
  alike : ∀ first second pieces, first.ListsCapabilities pieces → second.ListsCapabilities pieces →
    ofTree (tree.withCapabilities first) = ofTree (tree.withCapabilities second)
  /-- Other pieces change nothing but the capabilities. -/
  apart : ∀ first second pieces others, first.ListsCapabilities pieces →
    second.ListsCapabilities others →
      ofTree (tree.withCapabilities first) =
        (ofTree (tree.withCapabilities second)).map (allowing pieces)
  /-- The pieces have been cleaned once when they come to the policy, which cleans them again. -/
  cleanedTwice : ∀ stated pieces settings, stated.ListsCapabilities pieces →
    ofTree (tree.withCapabilities stated) = .ok settings →
      settings.plugins.allowedCapabilities = cleaned pieces ∧
        settings.plugins.policy = .ofList pieces
  devMode_iff : ∀ stated pieces settings, stated.ListsCapabilities pieces →
    ofTree (tree.withCapabilities stated) = .ok settings →
      (settings.plugins.policy.isDevMode = true ↔ ∀ piece ∈ pieces, isBlankText piece = true)

theorem ofTree_withCapabilities (ordered : tree.Ordered)
    (states : tree.capabilities?.isSome = true) (lists : first.ListsCapabilities pieces)
    (also : second.ListsCapabilities others) :
    ofTree (tree.withCapabilities first) =
      (ofTree (tree.withCapabilities second)).map (allowing pieces) := by
  obtain ⟨stated, states⟩ := Option.isSome_iff_exists.mp states
  obtain ⟨plugins, found, inside⟩ := Setting.at?_of_capabilities? states
  have alike :=
    SectionForm.read_restate (PluginSettings.differ lists also) (ordered.at? found)
      (by rw [inside]; rfl) {}
  simp only [Setting.withCapabilities, found]
  exact SectionForm.read_restate (differ alike) ordered
    (by rw [Setting.stated?_of_at? found]; rfl) {}

theorem withCapabilities_stated {stated : Setting} (ordered : tree.Ordered)
    (states : tree.capabilities? = some stated) : tree.withCapabilities stated = tree := by
  obtain ⟨plugins, found, inside⟩ := Setting.at?_of_capabilities? states
  simp only [Setting.withCapabilities, found]
  rw [SectionForm.restate_stated (ordered.at? found) inside,
    SectionForm.restate_stated ordered (Setting.stated?_of_at? found)]

/-- Settings that are read of a statement have the cleaned pieces. -/
theorem allowedCapabilities_of_ofTree (ordered : tree.Ordered)
    (states : tree.capabilities?.isSome = true) (lists : first.ListsCapabilities pieces)
    (reads : ofTree (tree.withCapabilities first) = .ok settings) :
    settings.plugins.allowedCapabilities = cleaned pieces := by
  have same := ofTree_withCapabilities ordered states lists lists
  rw [reads] at same
  have same : settings = settings.allowing pieces := Except.ok.inj same
  rw [same]
  rfl

theorem policy_of_ofTree (ordered : tree.Ordered)
    (states : tree.capabilities?.isSome = true) (lists : first.ListsCapabilities pieces)
    (reads : ofTree (tree.withCapabilities first) = .ok settings) :
    settings.plugins.policy = .ofList pieces := by
  rw [PluginSettings.policy, allowedCapabilities_of_ofTree ordered states lists reads,
    ofList_cleaned]

theorem capabilities_readAlike (ordered : tree.Ordered)
    (states : tree.capabilities?.isSome = true) : ReadsCapabilitiesAlike tree where
  own := fun _ own => withCapabilities_stated ordered own
  stated := Setting.capabilities?_withCapabilities states
  text := by
    intro source written settings reads
    have cut : IsCutInto ',' written (split ',' written) := isCutInto_iff.mpr rfl
    exact policy_of_ofTree ordered states (.text cut) reads
  list := by
    intro source items names settings texts reads
    exact policy_of_ofTree ordered states (.list texts) reads
  alike := by
    intro first second pieces lists also
    calc
      ofTree (tree.withCapabilities first) =
          (ofTree (tree.withCapabilities first)).map (allowing pieces) :=
        ofTree_withCapabilities ordered states lists lists
      _ = ofTree (tree.withCapabilities second) :=
        (ofTree_withCapabilities ordered states also lists).symm
  apart := by
    intro first second pieces others lists also
    exact ofTree_withCapabilities ordered states lists also
  cleanedTwice := by
    intro stated pieces settings lists reads
    exact ⟨allowedCapabilities_of_ofTree ordered states lists reads,
      policy_of_ofTree ordered states lists reads⟩
  devMode_iff := by
    intro stated pieces settings lists reads
    rw [policy_of_ofTree ordered states lists reads]
    exact isDevMode_ofList_iff pieces

theorem capabilities_readAlike_defaultTree :
    defaultTree.Ordered ∧ defaultTree.capabilities?.isSome = true ∧
      ∃ settings,
        ofTree (defaultTree.withCapabilities (.scalar .builtin (.text " fs.read,,net ,"))) =
          .ok settings ∧
        settings.plugins.policy = .ofCommaSeparated " fs.read,,net ," := by
  have states : defaultTree.capabilities?.isSome = true := by decide
  refine ⟨ordered_defaultTree, states, ?_⟩
  cases read : ofTree (defaultTree.withCapabilities (.scalar .builtin (.text " fs.read,,net ,"))) with
  | error fault =>
      have succeeds : (ofTree (defaultTree.withCapabilities
        (.scalar .builtin (.text " fs.read,,net ,")))).isOk = true := by decide +kernel
      rw [read] at succeeds
      cases succeeds
  | ok settings =>
      exact ⟨settings, rfl,
        (capabilities_readAlike ordered_defaultTree states).text .builtin _ settings read⟩

end HostSettings

end PluginHost
