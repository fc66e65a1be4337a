import Mathlib.Data.List.Induction
import Mathlib.Data.List.Nodup
import Mathlib.Data.String.Basic
import PluginHost.KeyedList

/-!
# Entries under keys

What is found under a key of some entries decides everything about entries that stand in order:
they are the same if the same is found in them.  Entries whose keys differ may be put in one after
the other in any order.
-/

namespace PluginHost.KeyedList

variable {α : Type}

/-! ### Look-up -/

theorem mem_of_get? {key : String} {value : α} {entries : KeyedList α}
    (found : get? key entries = some value) : (key, value) ∈ entries := by
  induction entries with
  | nil => cases found
  | cons entry entries ih =>
      obtain ⟨other, old⟩ := entry
      rw [get?_cons] at found
      split at found
      · next same =>
          subst same
          cases found
          exact List.mem_cons_self
      · exact List.mem_cons_of_mem _ (ih found)

theorem get?_of_mem {key : String} {value : α} {entries : List (String × α)}
    (distinct : (keys entries).Nodup) (member : (key, value) ∈ entries) :
    get? key entries = some value := by
  cases found : get? key entries with
  | none => exact ((get?_eq_none_iff _ _).mp found (List.mem_map_of_mem member)).elim
  | some other =>
      have same := List.inj_on_of_nodup_map distinct (mem_of_get? found) member rfl
      exact congrArg some (Prod.mk.inj same).2

theorem get?_eq_of_perm {entries others : List (String × α)} (listed : entries.Perm others)
    (distinct : (keys entries).Nodup) (key : String) : get? key entries = get? key others := by
  induction listed with
  | nil => rfl
  | cons entry _ ih => rw [get?_cons, get?_cons, ih (List.nodup_cons.mp distinct).2]
  | swap second first rest =>
      have apart : first.1 ≠ second.1 := by
        intro same
        simp [keys, same] at distinct
      rw [get?_cons, get?_cons, get?_cons, get?_cons]
      split
      · next here => rw [if_neg fun same => apart (here.trans same.symm)]
      · rfl
  | trans early _ ihEarly ihLate =>
      exact (ihEarly distinct).trans (ihLate ((early.map Prod.fst).nodup_iff.mp distinct))

/-- Keeping the entries of some keys. -/
theorem get?_filter (keeps : String → Bool) (key : String) (entries : KeyedList α) :
    get? key (entries.filter fun entry => keeps entry.1) =
      if keeps key then get? key entries else none := by
  induction entries with
  | nil => simp
  | cons entry entries ih =>
      obtain ⟨found, value⟩ := entry
      rw [List.filter_cons, get?_cons]
      by_cases same : found = key
      · subst found
        cases kept : keeps key <;> simp [kept, ih, get?_cons]
      · cases kept : keeps found <;> simp [ih, get?_cons, same]

/-! ### Entries in order -/

/-- Entries that are put in one after the other stand in order. -/
theorem sorted_ofList (entries : List (String × α)) : Sorted (ofList entries) :=
  List.foldlRecOn entries _ sorted_nil fun _ sorted entry _ => sorted_insert entry.1 entry.2 sorted

theorem mem_of_mem_ofList {entries : List (String × α)} {entry : String × α}
    (member : entry ∈ ofList entries) : entry ∈ entries := by
  have among : ∀ entry ∈ ofList entries, entry ∈ entries := by
    refine List.foldlRecOn (motive := fun built => ∀ entry ∈ built, entry ∈ entries) entries _
      (fun _ absent => absurd absent List.not_mem_nil) ?_
    intro built among first member entry inserted
    rcases mem_insert inserted with rfl | old
    · exact member
    · exact among entry old
  exact among entry member

/-- Sorted entries with the same values under the same keys are equal. -/
theorem Sorted.ext {first second : KeyedList α} (firstSorted : Sorted first)
    (secondSorted : Sorted second) (same : ∀ key, get? key first = get? key second) :
    first = second := by
  have distinct {entries : KeyedList α} (sorted : Sorted entries) : entries.Nodup :=
    List.Nodup.of_map _ sorted.nodup_keys
  have members (entry : String × α) : entry ∈ first ↔ entry ∈ second :=
    ⟨fun member => mem_of_get? (same entry.1 ▸ firstSorted.get?_of_mem member),
      fun member => mem_of_get? (same entry.1 ▸ secondSorted.get?_of_mem member)⟩
  refine List.Perm.eq_of_pairwise ?_ firstSorted secondSorted
    ((List.perm_ext_iff_of_nodup (distinct firstSorted) (distinct secondSorted)).mpr members)
  intro left right _ _ below above
  exact absurd (String.lt_trans below above) (String.lt_irrefl _)

theorem keys_erase (key : String) (entries : KeyedList α) :
    keys (erase key entries) = (keys entries).filter fun other => other != key := by
  rw [keys, keys, erase, List.filter_map]
  rfl

/-- Sorted entries that differ at most under one key have the same other keys in the same
order. -/
theorem filter_keys_eq {first second : KeyedList α} (firstSorted : Sorted first)
    (secondSorted : Sorted second) {key : String}
    (same : ∀ other, other ≠ key → get? other first = get? other second) :
    ((keys first).filter fun other => other != key) =
      (keys second).filter fun other => other != key := by
  rw [← keys_erase, ← keys_erase]
  have others : erase key first = erase key second := by
    refine Sorted.ext (firstSorted.filter _) (secondSorted.filter _) fun other => ?_
    rw [get?_erase, get?_erase]
    split
    · rfl
    · next apart => exact same other (Ne.symm apart)
  rw [others]

/-! ### Entries put in one after the other -/

/-- Of two entries under one key the later one stays. -/
theorem get?_ofList (key : String) (entries : List (String × α)) :
    get? key (ofList entries) = get? key entries.reverse := by
  induction entries using List.reverseRecOn with
  | nil => rfl
  | append_singleton entries entry ih =>
      rw [ofList] at ih ⊢
      rw [List.foldl_append, List.foldl_cons, List.foldl_nil, get?_insert, ih,
        List.reverse_append, List.reverse_singleton, List.singleton_append, get?_cons]

theorem get?_ofList_of_nodup {entries : List (String × α)} (distinct : (keys entries).Nodup)
    (key : String) : get? key (ofList entries) = get? key entries := by
  rw [get?_ofList, get?_eq_of_perm entries.reverse_perm.symm distinct]

theorem ofList_eq_of_perm {entries others : List (String × α)} (listed : entries.Perm others)
    (distinct : (keys entries).Nodup) : ofList entries = ofList others := by
  have alsoDistinct : (keys others).Nodup := (listed.map Prod.fst).nodup_iff.mp distinct
  refine Sorted.ext (sorted_ofList entries) (sorted_ofList others) fun key => ?_
  rw [get?_ofList_of_nodup distinct, get?_ofList_of_nodup alsoDistinct,
    get?_eq_of_perm listed distinct]

theorem ofList_perm {entries : List (String × α)} (distinct : (keys entries).Nodup) :
    (ofList entries).Perm entries := by
  have once : (ofList entries).Nodup := List.Nodup.of_map _ (sorted_ofList entries).nodup_keys
  refine (List.perm_ext_iff_of_nodup once (List.Nodup.of_map _ distinct)).mpr fun entry => ?_
  refine ⟨mem_of_mem_ofList, fun member => mem_of_get? ?_⟩
  rw [get?_ofList_of_nodup distinct, get?_of_mem distinct member]

theorem Sorted.ofList_eq {entries : KeyedList α} (sorted : Sorted entries) :
    ofList entries = entries :=
  Sorted.ext (sorted_ofList entries) sorted fun key => get?_ofList_of_nodup sorted.nodup_keys key

theorem Sorted.insert_eq {key : String} {value : α} {entries : KeyedList α}
    (sorted : Sorted entries) (found : get? key entries = some value) :
    insert key value entries = entries := by
  refine Sorted.ext (sorted_insert _ _ sorted) sorted fun other => ?_
  rw [get?_insert]
  by_cases same : key = other
  · rw [if_pos same, ← same, found]
  · rw [if_neg same]

/-! ### Entries that agree on some keys -/

variable {keys : List String} {left right : KeyedList α}

/-- Entries that agree on keys: each has the same value in both, or none in both. -/
def AgreeOn (keys : List String) (left right : KeyedList α) : Prop :=
  ∀ key ∈ keys, get? key left = get? key right

theorem AgreeOn.erase (agree : AgreeOn keys left right) (gone : String) :
    AgreeOn keys (KeyedList.erase gone left) (KeyedList.erase gone right) := by
  intro key member
  rw [get?_erase, get?_erase, agree key member]

theorem AgreeOn.symm (agree : AgreeOn keys left right) : AgreeOn keys right left :=
  fun key member => (agree key member).symm

theorem AgreeOn.tail {first : String} (agree : AgreeOn (first :: keys) left right) :
    AgreeOn keys left right :=
  fun key member => agree key (List.mem_cons_of_mem first member)

theorem agreeOn_filter (keys : List String) (entries : KeyedList α) :
    AgreeOn keys entries (entries.filter fun entry => keys.contains entry.1) := by
  intro key member
  rw [get?_filter fun found => keys.contains found, if_pos (List.contains_iff_mem.mpr member)]

theorem agreeOn_erase_insert (keys : List String) (key : String) (value : α)
    (entries : KeyedList α) :
    AgreeOn keys (KeyedList.erase key (KeyedList.insert key value entries))
      (KeyedList.erase key entries) := by
  intro other _
  rw [get?_erase, get?_erase, get?_insert]
  by_cases same : key = other <;> simp [same]

theorem agreeOn_erase_insert_of_ne (keys : List String) {key gone : String} (apart : key ≠ gone)
    (value : α) (entries : KeyedList α) :
    AgreeOn keys (KeyedList.erase gone (KeyedList.insert key value entries))
      (KeyedList.insert key value (KeyedList.erase gone entries)) := by
  intro other _
  rw [get?_erase, get?_insert, get?_insert, get?_erase]
  by_cases taken : gone = other
  · subst taken
    simp [apart]
  · simp [taken]

end PluginHost.KeyedList
