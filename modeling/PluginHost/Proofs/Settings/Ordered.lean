import PluginHost.Proofs.KeyedList
import PluginHost.Proofs.Settings.Layering
import PluginHost.Proofs.Toml.Ordered
import PluginHost.Settings.Loading

/-!
# Layers of settings are ordered trees

Every layer that settings are read from lists the keys of its tables in order, each once: the
defaults, what is stated in a file, and what the variables of the environment state.
-/

namespace PluginHost

open KeyedList

namespace Setting

theorem ordered_ofList (source : SettingSource) {entries : List (String × Setting)}
    (inside : ∀ entry ∈ entries, entry.2.Ordered) : (table source (ofList entries)).Ordered :=
  .table source (sorted_ofList entries) fun entry member => inside entry (mem_of_mem_ofList member)

theorem ordered_empty (source : SettingSource) : (table source []).Ordered :=
  .table source sorted_nil fun _ member => absurd member List.not_mem_nil

theorem ordered_singleton (source : SettingSource) (key : String) {setting : Setting}
    (ordered : setting.Ordered) : (table source [(key, setting)]).Ordered :=
  .table source (List.pairwise_singleton _ _) (by simpa using ordered)

/-! ### Files -/

theorem entriesOfToml_eq_map (source : SettingSource) (entries : List (String × TomlValue)) :
    entriesOfToml source entries = entries.map fun entry => (entry.1, ofToml source entry.2) := by
  induction entries with
  | nil => rw [entriesOfToml, List.map_nil]
  | cons entry entries ih => rw [entriesOfToml, ih, List.map_cons]

theorem ordered_ofToml (source : SettingSource) {value : TomlValue} (ordered : value.Ordered) :
    (ofToml source value).Ordered := by
  induction ordered with
  | @single value noTable =>
      cases value with
      | table entries => exact absurd rfl (noTable entries)
      | datetime written =>
          rw [ofToml]
          exact ordered_singleton source datetimeKey (.scalar source _)
      | array items =>
          rw [ofToml]
          exact .list source _
      | _ =>
          rw [ofToml]
          exact .scalar source _
  | table sorted inside ih =>
      rw [ofToml, entriesOfToml_eq_map]
      refine .table source (List.pairwise_map.mpr sorted) ?_
      intro entry member
      obtain ⟨before, among, rfl⟩ := List.mem_map.mp member
      exact ih before among

end Setting

namespace SettingsLayer

theorem ordered_ofText {source : SettingSource} {text : String} {tree : Setting}
    (stated : ofText source text = .ok tree) : tree.Ordered := by
  rw [ofText] at stated
  split at stated
  · next entries reads =>
      obtain rfl := Except.ok.inj stated
      exact Setting.ordered_ofToml source (TomlValue.ordered_of_parseDocument reads)
  · cases stated

theorem ordered_ofFile {files : FileView} {path : String} {tree : Setting}
    (stated : ofFile files path = .ok tree) : tree.Ordered := by
  rw [ofFile] at stated
  split at stated
  · obtain rfl := Except.ok.inj stated
    exact Setting.ordered_empty .builtin
  · split at stated
    · exact ordered_ofText stated
    · cases stated

end SettingsLayer

/-! ### The environment -/

namespace SettingNotation

/-- The values and the pairs that are read in a number of steps are ordered. -/
structure ReadsOrdered (fuel : Nat) : Prop where
  value : ∀ {text setting rest}, value? fuel text = some (setting, rest) → setting.Ordered
  pair : ∀ {text entry rest}, pair? fuel text = some (entry, rest) → entry.2.Ordered
  pairs : ∀ {text entries rest}, pairs? fuel text = some (entries, rest) →
    ∀ entry ∈ entries, entry.2.Ordered

theorem readsOrdered_zero : ReadsOrdered 0 where
  value reads := by
    rw [value?] at reads
    cases reads
  pair reads := by
    rw [pair?] at reads
    cases reads
  pairs reads := by
    rw [pairs?] at reads
    cases reads

namespace ReadsOrdered

variable {fuel : Nat} {text rest : List Char}

theorem value_succ (inner : ReadsOrdered fuel) {setting : Setting}
    (reads : value? (fuel + 1) text = some (setting, rest)) : setting.Ordered := by
  unfold value? at reads
  split at reads
  · obtain ⟨⟨entries, after⟩, found, same⟩ := Option.map_eq_some_iff.mp reads
    cases same
    exact Setting.ordered_ofList .environment (inner.pairs found)
  · obtain ⟨found, -, same⟩ := Option.map_eq_some_iff.mp reads
    cases same
    exact .list _ _
  · obtain ⟨found, -, same⟩ := Option.map_eq_some_iff.mp reads
    cases same
    exact .scalar _ _

theorem pair_succ (inner : ReadsOrdered fuel) {entry : String × Setting}
    (reads : pair? (fuel + 1) text = some (entry, rest)) : entry.2.Ordered := by
  rw [pair?] at reads
  split at reads
  · cases reads
  · split at reads
    · obtain ⟨found, read, same⟩ := Option.map_eq_some_iff.mp reads
      cases same
      exact inner.value read
    · cases reads

theorem pairs_succ (inner : ReadsOrdered fuel) {entries : List (String × Setting)}
    (reads : pairs? (fuel + 1) text = some (entries, rest)) :
    ∀ entry ∈ entries, entry.2.Ordered := by
  unfold pairs? at reads
  split at reads
  · cases reads
    simp
  · split at reads
    · next first after found =>
        obtain ⟨more, readMore, same⟩ := Option.map_eq_some_iff.mp reads
        cases same
        exact List.forall_mem_cons.mpr ⟨inner.pair found, inner.pairs readMore⟩
    · next first after found =>
        cases reads
        exact List.forall_mem_singleton.mpr (inner.pair found)
    · cases reads

end ReadsOrdered

theorem readsOrdered (fuel : Nat) : ReadsOrdered fuel := by
  induction fuel with
  | zero => exact readsOrdered_zero
  | succ fuel inner => exact ⟨inner.value_succ, inner.pair_succ, inner.pairs_succ⟩

theorem ordered_read (text : String) : (read text).Ordered := by
  rw [read]
  split
  · next reads => exact (readsOrdered _).value reads
  · exact .scalar _ _

end SettingNotation

namespace Environment

theorem ordered_nested (path : List String) {setting : Setting} (ordered : setting.Ordered) :
    (nested path setting).Ordered := by
  induction path with
  | nil => exact ordered
  | cons key path ih => exact Setting.ordered_singleton .environment key ih

theorem ordered_tree (environment : Environment) : environment.tree.Ordered := by
  refine List.foldlRecOn environment _ (Setting.ordered_empty .environment) ?_
  intro stated ordered entry _
  split
  · exact (ordered_nested _ (SettingNotation.ordered_read entry.2)).laidOver ordered
  · exact ordered

end Environment

/-! ### The defaults -/

namespace HostSettings

theorem ordered_builtinTable {entries : List (String × Setting)}
    (inside : ∀ entry ∈ entries, entry.2.Ordered) : (builtinTable entries).Ordered :=
  Setting.ordered_ofList .builtin inside

theorem ordered_defaultTree : defaultTree.Ordered := by
  refine ordered_builtinTable ?_
  simp only [List.forall_mem_cons]
  refine ⟨ordered_builtinTable ?_, ordered_builtinTable ?_, ordered_builtinTable ?_,
    ordered_builtinTable ?_, by simp⟩
  · simp [builtinText, builtinNumber, Setting.Ordered.scalar]
  · have config : (builtinTable []).Ordered := ordered_builtinTable (by simp)
    simp [builtinText, Setting.Ordered.scalar, Setting.Ordered.list, config]
  · simp [builtinOptional, builtinNumber, Setting.Ordered.scalar]
  · simp [builtinText, Setting.Ordered.scalar]

end HostSettings

end PluginHost
