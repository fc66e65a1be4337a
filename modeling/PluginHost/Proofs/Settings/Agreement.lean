import PluginHost.Proofs.KeyedList
import PluginHost.Proofs.Settings.Layering

/-!
# Trees of settings that agree

Two trees agree where neither contradicts the other: under every key that both have, they have
tables that agree, or the same setting.  Trees that agree come to the same in whatever order they
are laid over what is below them, and two trees that do not agree never do.
-/

namespace PluginHost

namespace Setting

open KeyedList

/-- Two trees agree: wherever both state something, both have tables, or both state the same. -/
inductive Agree : Setting → Setting → Prop where
  | same (setting : Setting) : Agree setting setting
  | tables {source : SettingSource} {entries others : SettingEntries}
      (inside : ∀ key first second, get? key entries = some first →
        get? key others = some second → Agree first second) :
      Agree (.table source entries) (.table source others)

/-! ### Tables over what is below them -/

/-- The entries that a table meets below it. -/
def entriesBelow : Option Setting → SettingEntries
  | some (.table _ entries) => entries
  | _ => []

variable {first second : Setting} {below : Option Setting} {entries : SettingEntries}

theorem sorted_entriesBelow (ordered : ∀ setting ∈ below, setting.Ordered) :
    Sorted (entriesBelow below) := by
  cases below with
  | none => exact sorted_nil
  | some setting =>
      cases ordered setting rfl with
      | table _ sorted _ => exact sorted
      | _ => exact sorted_nil

theorem ordered_of_get?_entriesBelow (ordered : ∀ setting ∈ below, setting.Ordered) (key : String) :
    ∀ setting ∈ get? key (entriesBelow below), setting.Ordered := by
  cases below with
  | none => exact fun _ found => nomatch found
  | some setting =>
      cases ordered setting rfl with
      | table _ _ inside => exact fun _ found => inside _ (mem_of_get? found)
      | _ => exact fun _ found => nomatch found

theorem entriesOver_nil (sorted : Sorted entries) : entriesOver entries [] = entries := by
  refine Sorted.ext (sorted_entriesOver entries sorted_nil) sorted fun key => ?_
  rw [get?_entriesOver sorted.nodup_keys, get?_nil]
  cases get? key entries <;> rfl

/-- A table over anything is a table with its entries over those that it meets. -/
theorem overlaid_table (source : SettingSource) (sorted : Sorted entries)
    (below : Option Setting) :
    overlaid (some (.table source entries)) below =
      some (.table source (entriesOver entries (entriesBelow below))) := by
  cases below with
  | none => simp only [overlaid, entriesBelow, entriesOver_nil sorted]
  | some setting =>
      cases setting with
      | table _ others => simp only [overlaid, laidOver_table, entriesBelow]
      | _ =>
          rw [overlaid, laidOver_of_apart (by simp [HasEntries])]
          simp only [entriesBelow, entriesOver_nil sorted]

/-- What is no table covers whatever is below it. -/
theorem overlaid_of_single (single : ¬ first.HasEntries) (below : Option Setting) :
    overlaid (some first) below = some first := by
  cases below with
  | none => rfl
  | some setting => rw [overlaid, laidOver_of_apart fun both => single both.2]

/-- What is no table is covered by whatever is above it. -/
theorem overlaid_some_of_single (single : ¬ second.HasEntries) (first : Setting) :
    overlaid (some first) (some second) = some first := by
  rw [overlaid, laidOver_of_apart fun both => single both.1]

/-! ### Two trees in either order -/

/-- Trees that agree may change places. -/
theorem Agree.overlaid_comm (agree : first.Agree second) (firstOrdered : first.Ordered)
    (secondOrdered : second.Ordered) (ordered : ∀ setting ∈ below, setting.Ordered) :
    overlaid (some second) (overlaid (some first) below) =
      overlaid (some first) (overlaid (some second) below) := by
  induction agree generalizing below with
  | same setting => rfl
  | @tables source entries others inside ih =>
      cases firstOrdered with
      | @table _ _ sorted ordered₁ =>
          cases secondOrdered with
          | @table _ _ othersSorted ordered₂ =>
              have belowSorted := sorted_entriesBelow ordered
              simp only [overlaid_table source sorted, overlaid_table source othersSorted,
                entriesBelow]
              congr 2
              refine Sorted.ext (sorted_entriesOver _ (sorted_entriesOver _ belowSorted))
                (sorted_entriesOver _ (sorted_entriesOver _ belowSorted)) fun key => ?_
              simp only [get?_entriesOver sorted.nodup_keys,
                get?_entriesOver othersSorted.nodup_keys]
              cases stated : get? key entries with
              | none => rfl
              | some first =>
                  cases also : get? key others with
                  | none => rfl
                  | some second =>
                      exact ih key first second stated also (ordered₁ _ (mem_of_get? stated))
                        (ordered₂ _ (mem_of_get? also)) (ordered_of_get?_entriesBelow ordered key)

theorem agree_of_eq (same : second = first) : first.Agree second := by
  subst same
  exact .same second

/-- Trees that may change places agree, whatever is below them. -/
theorem agree_of_overlaid_comm (firstOrdered : first.Ordered) (secondOrdered : second.Ordered)
    (comm : overlaid (some second) (overlaid (some first) below) =
      overlaid (some first) (overlaid (some second) below)) : first.Agree second := by
  -- What is no table stays as it is on top, so that only two tables have to be looked into.
  induction firstOrdered generalizing second below with
  | scalar source value =>
      have single : ¬ (scalar source value).HasEntries := by simp [HasEntries]
      rw [overlaid_of_single single, overlaid_some_of_single single,
        overlaid_of_single single] at comm
      exact agree_of_eq (Option.some.inj comm)
  | list source items =>
      have single : ¬ (list source items).HasEntries := by simp [HasEntries]
      rw [overlaid_of_single single, overlaid_some_of_single single,
        overlaid_of_single single] at comm
      exact agree_of_eq (Option.some.inj comm)
  | @table source entries sorted inside ih =>
      by_cases secondTable : second.HasEntries
      · obtain ⟨otherSource, others, rfl⟩ := secondTable
        cases secondOrdered with
        | @table _ _ othersSorted othersInside =>
            simp only [overlaid_table source sorted, overlaid_table otherSource othersSorted,
              entriesBelow, Option.some.injEq, table.injEq] at comm
            obtain ⟨rfl, merged⟩ := comm
            refine .tables fun key first second stated also => ?_
            have atKey := congrArg (get? key) merged
            rw [get?_entriesOver sorted.nodup_keys, get?_entriesOver othersSorted.nodup_keys,
              get?_entriesOver sorted.nodup_keys, get?_entriesOver othersSorted.nodup_keys,
              stated, also] at atKey
            exact ih _ (mem_of_get? stated) (othersInside _ (mem_of_get? also)) atKey
      · rw [overlaid_of_single secondTable, overlaid_of_single secondTable,
          overlaid_some_of_single secondTable] at comm
        exact agree_of_eq (Option.some.inj comm)

/-! ### Several trees in any order -/

theorem stacked_cons (below first : Setting) (trees : List Setting) :
    stacked below (first :: trees) = stacked (first.laidOver below) trees :=
  rfl

/-- Trees of which any two agree come to the same in every order. -/
theorem stacked_eq_of_perm {trees others : List Setting} (listed : trees.Perm others)
    (ordered : ∀ tree ∈ trees, tree.Ordered)
    (agree : ∀ tree ∈ trees, ∀ other ∈ trees, tree.Agree other) {below : Setting}
    (belowOrdered : below.Ordered) : stacked below trees = stacked below others := by
  induction listed generalizing below with
  | nil => rfl
  | cons first _ ih =>
      obtain ⟨firstOrdered, ordered⟩ := List.forall_mem_cons.mp ordered
      rw [stacked_cons, stacked_cons]
      exact ih ordered (fun tree member other otherMember =>
        agree tree (List.mem_cons_of_mem _ member) other (List.mem_cons_of_mem _ otherMember))
        (firstOrdered.laidOver belowOrdered)
  | swap first second trees =>
      obtain ⟨secondOrdered, ordered⟩ := List.forall_mem_cons.mp ordered
      obtain ⟨firstOrdered, -⟩ := List.forall_mem_cons.mp ordered
      have ordered : ∀ setting ∈ some below, setting.Ordered := by simpa using belowOrdered
      have comm := (agree first (by simp) second (by simp)).overlaid_comm firstOrdered
        secondOrdered ordered
      simp only [stacked_cons, Option.some.inj comm]
  | trans early _ ihEarly ihLate =>
      rw [ihEarly ordered agree belowOrdered]
      refine ihLate (fun tree member => ordered tree (early.mem_iff.mpr member)) ?_ belowOrdered
      exact fun tree member other otherMember =>
        agree tree (early.mem_iff.mpr member) other (early.mem_iff.mpr otherMember)

end Setting

end PluginHost
