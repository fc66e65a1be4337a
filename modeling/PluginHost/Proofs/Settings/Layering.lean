import Mathlib.Data.List.Induction
import PluginHost.Proofs.Files.Listing
import PluginHost.Settings.Tree

/-!
# Trees of settings laid over one another

Laying a later tree over an earlier one merges their tables key by key and lets anything else of
the later tree replace what was there.  So at a path along which there are only tables, and at
which there is none, the trees of several layers laid over one another have the setting of the
topmost one that states it.
-/

namespace PluginHost

namespace Setting

open KeyedList

/-! ### Ordered trees -/

/-- Whether a setting has entries under keys. -/
def HasEntries (setting : Setting) : Prop :=
  ∃ source entries, setting = .table source entries

/-- A setting whose tables list their keys in order, each once.  Lists are replaced as a whole, so
that it does not matter what is in them. -/
inductive Ordered : Setting → Prop where
  | scalar (source : SettingSource) (value : SettingScalar) : Ordered (.scalar source value)
  | list (source : SettingSource) (items : List Setting) : Ordered (.list source items)
  | table (source : SettingSource) {entries : SettingEntries} (sorted : Sorted entries)
      (inside : ∀ entry ∈ entries, Ordered entry.2) : Ordered (.table source entries)

/-- What two layers, a later and an earlier one, state together under one key. -/
def overlaid : Option Setting → Option Setting → Option Setting
  | some later, some earlier => some (later.laidOver earlier)
  | some later, none => some later
  | none, earlier => earlier

/-- The tables of two layers are merged key by key. -/
theorem get?_entriesOver {later : SettingEntries} (distinct : (keys later).Nodup)
    (earlier : SettingEntries) (key : String) :
    get? key (entriesOver later earlier) = overlaid (get? key later) (get? key earlier) := by
  induction later generalizing earlier with
  | nil => rw [entriesOver, get?_nil, overlaid]
  | cons entry rest ih =>
      obtain ⟨other, stated⟩ := entry
      obtain ⟨absent, distinct⟩ := List.nodup_cons.mp distinct
      rw [entriesOver, ih distinct, get?_insert, get?_cons]
      by_cases same : other = key
      · subst same
        have missing := (get?_eq_none_iff other rest).mpr absent
        rw [missing, if_pos rfl, if_pos rfl, overlaid]
        cases get? other earlier <;> rfl
      · rw [if_neg same, if_neg same]

theorem sorted_entriesOver (later : SettingEntries) {earlier : SettingEntries}
    (sorted : Sorted earlier) : Sorted (entriesOver later earlier) := by
  induction later generalizing earlier with
  | nil => simpa [entriesOver] using sorted
  | cons entry rest ih =>
      rw [entriesOver]
      exact ih (sorted_insert _ _ sorted)

theorem laidOver_table (laterSource earlierSource : SettingSource)
    (later earlier : SettingEntries) :
    (table laterSource later).laidOver (table earlierSource earlier) =
      table laterSource (entriesOver later earlier) := by
  rw [laidOver]

theorem laidOver_of_apart {later earlier : Setting}
    (apart : ¬ (earlier.HasEntries ∧ later.HasEntries)) : later.laidOver earlier = later := by
  cases later with
  | table source entries =>
      cases earlier with
      | table earlierSource others => exact absurd ⟨⟨_, _, rfl⟩, _, _, rfl⟩ apart
      | _ => simp [laidOver]
  | _ => simp [laidOver]

/-- Trees that are laid over one another stay ordered. -/
theorem Ordered.laidOver {later earlier : Setting} (laterOrdered : later.Ordered)
    (earlierOrdered : earlier.Ordered) : (later.laidOver earlier).Ordered := by
  induction laterOrdered generalizing earlier with
  | scalar source value =>
      rw [laidOver_of_apart (by simp [HasEntries])]
      exact .scalar source value
  | list source items =>
      rw [laidOver_of_apart (by simp [HasEntries])]
      exact .list source items
  | @table source entries sorted inside ih =>
      cases earlierOrdered with
      | scalar =>
          rw [laidOver_of_apart (by simp [HasEntries])]
          exact .table source sorted inside
      | list =>
          rw [laidOver_of_apart (by simp [HasEntries])]
          exact .table source sorted inside
      | @table _ others othersSorted othersInside =>
          rw [laidOver_table]
          have mergedSorted := sorted_entriesOver entries othersSorted
          refine .table source mergedSorted ?_
          rintro ⟨key, merged⟩ member
          have found := mergedSorted.get?_of_mem member
          rw [get?_entriesOver sorted.nodup_keys] at found
          cases later : get? key entries with
          | none =>
              rw [later] at found
              exact othersInside _ (mem_of_get? found)
          | some stated =>
              have among := mem_of_get? later
              cases earlier : get? key others with
              | none =>
                  rw [later, earlier] at found
                  obtain rfl := Option.some.inj found
                  exact inside _ among
              | some before =>
                  rw [later, earlier] at found
                  obtain rfl := Option.some.inj found
                  exact ih _ among (othersInside _ (mem_of_get? earlier))

/-! ### Paths -/

/-- The setting at a path of keys. -/
def at? : List String → Setting → Option Setting
  | [], setting => some setting
  | key :: path, .table _ entries => (get? key entries).bind (at? path)
  | _ :: _, _ => none

/-- Whether a setting is a date or a time, which is kept as a table with one key. -/
def IsDatetime (setting : Setting) : Prop :=
  ∃ source inner written,
    setting = .table source [(datetimeKey, .scalar inner (.text written))]

/-- Whether a path leads only through tables of a tree, as far as it leads, and to no table. -/
structure Plain (path : List String) (tree : Setting) : Prop where
  prefixes : ∀ front back, path = front ++ back → back ≠ [] →
    ∀ found, tree.at? front = some found → found.HasEntries
  leaf : ∀ found, tree.at? path = some found → found.HasEntries → found.IsDatetime

theorem plain_nil_iff (tree : Setting) : Plain [] tree ↔ (tree.HasEntries → tree.IsDatetime) := by
  constructor
  · intro plain
    exact plain.leaf tree rfl
  · intro leaf
    refine ⟨?_, ?_⟩
    · intro front back split notLast
      exact absurd (List.append_eq_nil_iff.mp split.symm).2 notLast
    · rintro found ⟨⟩
      exact leaf

theorem plain_cons_iff (key : String) (path : List String) (tree : Setting) :
    Plain (key :: path) tree ↔ ∃ source entries, tree = .table source entries ∧
      ∀ inner, get? key entries = some inner → Plain path inner := by
  constructor
  · intro plain
    obtain ⟨source, entries, rfl⟩ := plain.prefixes [] (key :: path) rfl (by simp) tree rfl
    refine ⟨source, entries, rfl, fun inner found => ⟨?_, ?_⟩⟩
    · intro front back split notLast reached at?_front
      refine plain.prefixes (key :: front) back (by rw [split]; rfl) notLast reached ?_
      rw [at?, found, Option.bind_some, at?_front]
    · intro reached at?_path
      refine plain.leaf reached ?_
      rw [at?, found, Option.bind_some, at?_path]
  · rintro ⟨source, entries, rfl, inside⟩
    refine ⟨?_, ?_⟩
    · intro front back split notLast reached at?_front
      cases front with
      | nil =>
          obtain rfl := Option.some.inj at?_front
          exact ⟨source, entries, rfl⟩
      | cons first front =>
          obtain ⟨same, rest⟩ := List.cons.inj split
          subst same
          rw [at?, Option.bind_eq_some_iff] at at?_front
          obtain ⟨inner, found, at?_front⟩ := at?_front
          exact (inside inner found).prefixes front back rest notLast reached at?_front
    · intro reached at?_path
      rw [at?, Option.bind_eq_some_iff] at at?_path
      obtain ⟨inner, found, at?_path⟩ := at?_path
      exact (inside inner found).leaf reached at?_path

theorem at?_append (front back : List String) (tree : Setting) :
    tree.at? (front ++ back) = (tree.at? front).bind (at? back) := by
  induction front generalizing tree with
  | nil => rfl
  | cons key front ih =>
      cases tree with
      | table source entries =>
          rw [List.cons_append, at?, at?, Option.bind_assoc]
          exact congrArg _ (funext ih)
      | _ => rfl

/-- A path that leads to no table is plain: only tables lead on. -/
theorem plain_of_stated {path : List String} {tree setting : Setting}
    (stated : tree.at? path = some setting) (single : ¬ setting.HasEntries) : Plain path tree where
  prefixes front back split notLast found at?_front := by
    rw [split, at?_append, at?_front, Option.bind_some] at stated
    cases found with
    | table source entries => exact ⟨source, entries, rfl⟩
    | _ =>
        cases back with
        | nil => exact absurd rfl notLast
        | cons key back => cases stated
  leaf found at?_path hasEntries := by
    obtain rfl := Option.some.inj (stated.symm.trans at?_path)
    exact absurd hasEntries single

theorem plain_of_empty {front : List String} {tree : Setting} {source : SettingSource}
    (empty : tree.at? front = some (.table source [])) (key : String) (path : List String) :
    Plain (front ++ key :: path) tree := by
  induction front generalizing tree with
  | nil =>
      obtain rfl := Option.some.inj empty
      exact (plain_cons_iff key path _).mpr ⟨source, [], rfl, nofun⟩
  | cons first front ih =>
      cases tree with
      | table outer entries =>
          obtain ⟨inner, found, empty⟩ := Option.bind_eq_some_iff.mp empty
          refine (plain_cons_iff first _ _).mpr ⟨outer, entries, rfl, fun other again => ?_⟩
          obtain rfl := Option.some.inj (found.symm.trans again)
          exact ih empty
      | _ => cases empty

/-- What is no table replaces what is no table; a date does so because it has the one key that
every date has. -/
theorem laidOver_of_leaf {later earlier : Setting}
    (laterLeaf : later.HasEntries → later.IsDatetime)
    (earlierLeaf : earlier.HasEntries → earlier.IsDatetime) :
    later.laidOver earlier = later := by
  by_cases both : earlier.HasEntries ∧ later.HasEntries
  · obtain ⟨source, inner, written, rfl⟩ := laterLeaf both.2
    obtain ⟨otherSource, otherInner, otherWritten, rfl⟩ := earlierLeaf both.1
    simp [laidOver, entriesOver, get?_cons, KeyedList.insert]
  · exact laidOver_of_apart both

/-- Along plain paths the later tree counts where it states something, and the earlier one where
it does not; the path stays plain. -/
theorem at?_laidOver {later earlier : Setting} (laterOrdered : later.Ordered) {path : List String}
    (laterPlain : Plain path later) (earlierPlain : Plain path earlier) :
    (later.laidOver earlier).at? path = (later.at? path).or (earlier.at? path) ∧
      Plain path (later.laidOver earlier) := by
  induction path generalizing later earlier with
  | nil =>
      rw [plain_nil_iff] at laterPlain earlierPlain
      rw [laidOver_of_leaf laterPlain earlierPlain]
      exact ⟨rfl, (plain_nil_iff later).mpr laterPlain⟩
  | cons key path ih =>
      obtain ⟨source, entries, rfl, inside⟩ := (plain_cons_iff key path later).mp laterPlain
      obtain ⟨_, others, rfl, othersInside⟩ := (plain_cons_iff key path earlier).mp earlierPlain
      cases laterOrdered with
      | @table _ _ sorted ordered =>
          rw [laidOver_table, plain_cons_iff, at?, at?, at?, get?_entriesOver sorted.nodup_keys]
          cases stated : get? key entries with
          | none =>
              refine ⟨rfl, source, _, rfl, fun inner found => ?_⟩
              rw [get?_entriesOver sorted.nodup_keys, stated] at found
              exact othersInside inner found
          | some later =>
              cases before : get? key others with
              | none =>
                  refine ⟨by simp [overlaid], source, _, rfl, fun inner found => ?_⟩
                  rw [get?_entriesOver sorted.nodup_keys, stated, before] at found
                  obtain rfl := Option.some.inj found
                  exact inside _ stated
              | some earlier =>
                  -- Both trees have the key: only what is below it decides.
                  obtain ⟨at?_eq, plain⟩ := ih (ordered _ (mem_of_get? stated))
                    (inside later stated) (othersInside earlier before)
                  refine ⟨at?_eq, source, _, rfl, fun inner found => ?_⟩
                  rw [get?_entriesOver sorted.nodup_keys, stated, before] at found
                  obtain rfl := Option.some.inj found
                  exact plain

/-! ### Several layers -/

/-- Trees laid over a first one, one after the other. -/
def stacked (first : Setting) (trees : List Setting) : Setting :=
  trees.foldl (fun earlier later => later.laidOver earlier) first

theorem stacked_append (first : Setting) (trees : List Setting) (last : Setting) :
    stacked first (trees ++ [last]) = last.laidOver (stacked first trees) := by
  rw [stacked, List.foldl_append]
  rfl

theorem ordered_stacked {first : Setting} (firstOrdered : first.Ordered) {trees : List Setting}
    (ordered : ∀ tree ∈ trees, tree.Ordered) : (stacked first trees).Ordered := by
  induction trees using List.reverseRecOn with
  | nil => exact firstOrdered
  | append_singleton trees last ih =>
      obtain ⟨before, lastOrdered⟩ := List.forall_mem_append.mp ordered
      rw [stacked_append]
      exact (List.forall_mem_singleton.mp lastOrdered).laidOver (ih before)

/-- What the right-biased deep merge of an earlier and a later tree is: of two tables it has every
key of either, with the merged settings under keys of both; otherwise the later one replaces the
earlier one. -/
inductive DeepMerge : Setting → Setting → Setting → Prop where
  | replaced {earlier later : Setting} (apart : ¬ (earlier.HasEntries ∧ later.HasEntries)) :
      DeepMerge earlier later later
  | merged {earlierSource source : SettingSource} {earlier later both : SettingEntries}
      (inside : String → Setting) (sorted : Sorted both)
      (onlyEarlier : ∀ key, get? key later = none → get? key both = get? key earlier)
      (onlyLater : ∀ key, get? key earlier = none → get? key both = get? key later)
      (inBoth : ∀ key before after, get? key earlier = some before → get? key later = some after →
        get? key both = some (inside key))
      (deep : ∀ key before after, get? key earlier = some before → get? key later = some after →
        DeepMerge before after (inside key)) :
      DeepMerge (.table earlierSource earlier) (.table source later) (.table source both)

theorem deepMerge_of_apart {later earlier : Setting}
    (apart : ¬ (earlier.HasEntries ∧ later.HasEntries)) :
    DeepMerge earlier later (later.laidOver earlier) := by
  rw [laidOver_of_apart apart]
  exact .replaced apart

theorem deepMerge_laidOver {later earlier : Setting} (laterOrdered : later.Ordered)
    (earlierOrdered : earlier.Ordered) : DeepMerge earlier later (later.laidOver earlier) := by
  induction laterOrdered generalizing earlier with
  | scalar source value => exact deepMerge_of_apart (by simp [HasEntries])
  | list source items => exact deepMerge_of_apart (by simp [HasEntries])
  | @table source entries sorted inside ih =>
      cases earlierOrdered with
      | scalar => exact deepMerge_of_apart (by simp [HasEntries])
      | list => exact deepMerge_of_apart (by simp [HasEntries])
      | @table earlierSource others othersSorted othersInside =>
          rw [laidOver_table]
          have mergedKey := get?_entriesOver sorted.nodup_keys others
          refine .merged
            (fun key => ((get? key entries).getD (.table source [])).laidOver
              ((get? key others).getD (.table source [])))
            (sorted_entriesOver entries othersSorted) ?_ ?_ ?_ ?_
          · intro key absent
            rw [mergedKey, absent, overlaid]
          · intro key absent
            rw [mergedKey, absent]
            cases get? key entries <;> rfl
          · intro key before after stated later
            rw [mergedKey, stated, later]
            rfl
          · intro key before after stated later
            rw [stated, later]
            exact ih _ (mem_of_get? later) (othersInside _ (mem_of_get? stated))

/-- A tree that is the deep merge of several, each over the ones before it. -/
inductive DeepMerges (first : Setting) : List Setting → Setting → Prop where
  | alone : DeepMerges first [] first
  | over {trees : List Setting} {below last merged : Setting} (before : DeepMerges first trees below)
      (merge : DeepMerge below last merged) : DeepMerges first (trees ++ [last]) merged

theorem deepMerges_stacked {first : Setting} (firstOrdered : first.Ordered) {trees : List Setting}
    (ordered : ∀ tree ∈ trees, tree.Ordered) : DeepMerges first trees (stacked first trees) := by
  induction trees using List.reverseRecOn with
  | nil => exact .alone
  | append_singleton trees last ih =>
      obtain ⟨before, lastOrdered⟩ := List.forall_mem_append.mp ordered
      rw [stacked_append]
      exact .over (ih before) (deepMerge_laidOver (List.forall_mem_singleton.mp lastOrdered)
        (ordered_stacked firstOrdered before))

/-- The setting that the topmost of several trees states at a path; the trees are listed from the
bottom, and those that state nothing there do not count. -/
def Topmost (trees : List Setting) (path : List String) (setting : Setting) : Prop :=
  ∃ below tree above, trees = below ++ tree :: above ∧ tree.at? path = some setting ∧
    ∀ other ∈ above, other.at? path = none

theorem topmost_append_iff (trees : List Setting) (last : Setting) (path : List String)
    (setting : Setting) :
    Topmost (trees ++ [last]) path setting ↔
      last.at? path = some setting ∨ last.at? path = none ∧ Topmost trees path setting := by
  constructor
  · rintro ⟨below, tree, above, split, stated, silent⟩
    rcases List.eq_nil_or_concat' above with rfl | ⟨above, other, rfl⟩
    · obtain ⟨rfl, same⟩ := List.append_inj' split rfl
      cases same
      exact .inl stated
    · rw [← List.cons_append, ← List.append_assoc] at split
      obtain ⟨rfl, same⟩ := List.append_inj' split rfl
      cases same
      obtain ⟨silentBefore, silentAtEnd⟩ := List.forall_mem_append.mp silent
      exact .inr ⟨silentAtEnd last List.mem_cons_self, below, tree, above, rfl, stated,
        silentBefore⟩
  · rintro (stated | ⟨absent, below, tree, above, rfl, stated, silent⟩)
    · exact ⟨trees, last, [], rfl, stated, by simp⟩
    · refine ⟨below, tree, above ++ [last], by simp, stated, ?_⟩
      rw [List.forall_mem_append, List.forall_mem_singleton]
      exact ⟨silent, absent⟩

/-- The topmost of several trees with a setting at a path is the lowest one only if the others
have none there. -/
theorem topmost_cons_iff (first : Setting) (trees : List Setting) (path : List String)
    (setting : Setting) :
    Topmost (first :: trees) path setting ↔ Topmost trees path setting ∨
      (∀ tree ∈ trees, tree.at? path = none) ∧ first.at? path = some setting := by
  constructor
  · rintro ⟨below, tree, above, split, stated, silent⟩
    cases below with
    | nil =>
        obtain ⟨rfl, rfl⟩ := List.cons.inj split
        exact .inr ⟨silent, stated⟩
    | cons lowest below =>
        obtain ⟨rfl, rfl⟩ := List.cons.inj split
        exact .inl ⟨below, tree, above, rfl, stated, silent⟩
  · rintro (⟨below, tree, above, rfl, stated, silent⟩ | ⟨silent, stated⟩)
    · exact ⟨first :: below, tree, above, rfl, stated, silent⟩
    · exact ⟨[], first, trees, rfl, stated, silent⟩

/-- Layers laid over one another have at a plain path what the topmost of them states there. -/
theorem at?_stacked_iff {first : Setting} {trees : List Setting} {path : List String}
    (ordered : ∀ tree ∈ trees, tree.Ordered) (firstPlain : Plain path first)
    (plain : ∀ tree ∈ trees, Plain path tree) (setting : Setting) :
    ((stacked first trees).at? path = some setting ↔ Topmost (first :: trees) path setting) ∧
      Plain path (stacked first trees) := by
  induction trees using List.reverseRecOn generalizing setting with
  | nil =>
      refine ⟨?_, firstPlain⟩
      have nowhere : ¬ Topmost [] path setting := by
        rintro ⟨below, tree, above, split, -⟩
        simp at split
      have alone := topmost_append_iff [] first path setting
      rw [List.nil_append] at alone
      rw [alone, or_iff_left (fun stated => nowhere stated.2)]
      rfl
  | append_singleton trees last ih =>
      obtain ⟨beforeOrdered, lastOrdered⟩ := List.forall_mem_append.mp ordered
      obtain ⟨beforePlain, lastPlain⟩ := List.forall_mem_append.mp plain
      obtain ⟨before, plainBefore⟩ := ih beforeOrdered beforePlain setting
      obtain ⟨at?_eq, plainAfter⟩ := at?_laidOver (List.forall_mem_singleton.mp lastOrdered)
        (List.forall_mem_singleton.mp lastPlain) plainBefore
      rw [stacked_append]
      refine ⟨?_, plainAfter⟩
      rw [at?_eq, Option.or_eq_some_iff, before, ← List.cons_append, topmost_append_iff]

end Setting

end PluginHost
