/-!
# Values under text keys

A keyed list holds values under text keys in increasing order of the keys' code points, each
key once.  `insert` and `ofList` keep the order, so that two keyed lists with the same values
under the same keys are equal.
-/

namespace PluginHost

/-- Values listed by key. -/
abbrev KeyedList (α : Type) := List (String × α)

namespace KeyedList

variable {α : Type}

/-- The value under a key. -/
def get? (key : String) : KeyedList α → Option α
  | [] => none
  | (found, value) :: rest => if found == key then some value else get? key rest

/-- Whether a key occurs. -/
def contains (key : String) (entries : KeyedList α) : Bool :=
  (get? key entries).isSome

/-- Puts a value under a key, in the key's place; an older value is replaced. -/
def insert (key : String) (value : α) : KeyedList α → KeyedList α
  | [] => [(key, value)]
  | (found, old) :: rest =>
    if key < found then (key, value) :: (found, old) :: rest
    else if key == found then (key, value) :: rest
    else (found, old) :: insert key value rest

/-- Removes a key. -/
def erase (key : String) (entries : KeyedList α) : KeyedList α :=
  entries.filter fun entry => entry.1 != key

/-- The entries put in one after the other. -/
def ofList (entries : List (String × α)) : KeyedList α :=
  entries.foldl (fun built entry => insert entry.1 entry.2 built) []

/-- The keys in order. -/
def keys (entries : KeyedList α) : List String :=
  entries.map Prod.fst

/-- Whether the keys stand in strictly increasing order. -/
def Sorted (entries : KeyedList α) : Prop :=
  entries.Pairwise fun left right => left.1 < right.1

/-! ### Look-up after a change -/

@[simp]
theorem get?_nil (key : String) : get? key ([] : KeyedList α) = none :=
  rfl

theorem get?_cons (key found : String) (value : α) (entries : KeyedList α) :
    get? key ((found, value) :: entries) =
      if found = key then some value else get? key entries := by
  simp [get?]

/-- Inserting changes what is under its own key and nothing else. -/
theorem get?_insert (key other : String) (value : α) (entries : KeyedList α) :
    get? other (insert key value entries) =
      if key = other then some value else get? other entries := by
  induction entries with
  | nil => rw [insert, get?_cons]
  | cons entry entries ih =>
      obtain ⟨found, old⟩ := entry
      rw [insert]
      split
      · rw [get?_cons]
      · split
        · rename_i same
          obtain rfl : key = found := by simpa using same
          rw [get?_cons, get?_cons]
          split <;> rfl
        · rename_i different
          have apart : key ≠ found := by simpa using different
          rw [get?_cons, get?_cons, ih]
          by_cases atFound : found = other
          · subst other
            simp [apart]
          · simp [atFound]

/-- Erasing removes what is under its own key and nothing else. -/
theorem get?_erase (key other : String) (entries : KeyedList α) :
    get? other (erase key entries) = if key = other then none else get? other entries := by
  induction entries with
  | nil => simp [erase]
  | cons entry entries ih =>
      obtain ⟨found, value⟩ := entry
      rw [erase] at ih ⊢
      by_cases same : found = key
      · subst found
        rw [List.filter_cons_of_neg (by simp), ih, get?_cons]
        split <;> rfl
      · rw [List.filter_cons_of_pos (by simpa using same), get?_cons, get?_cons, ih]
        by_cases atFound : found = other
        · subst other
          simp [Ne.symm same]
        · simp [atFound]

theorem contains_eq_true_iff (key : String) (entries : KeyedList α) :
    contains key entries = true ↔ ∃ value, get? key entries = some value := by
  rw [contains, Option.isSome_iff_exists]

/-! ### Order -/

theorem mem_insert {key : String} {value : α} {entries : KeyedList α} {entry : String × α}
    (member : entry ∈ insert key value entries) : entry = (key, value) ∨ entry ∈ entries := by
  induction entries with
  | nil => exact .inl (List.mem_singleton.mp member)
  | cons head entries ih =>
      obtain ⟨found, old⟩ := head
      rw [insert] at member
      split at member
      · exact List.mem_cons.mp member
      · split at member
        · rcases List.mem_cons.mp member with same | later
          · exact .inl same
          · exact .inr (List.mem_cons_of_mem _ later)
        · rcases List.mem_cons.mp member with rfl | later
          · exact .inr List.mem_cons_self
          · rcases ih later with same | old
            · exact .inl same
            · exact .inr (List.mem_cons_of_mem _ old)

theorem sorted_nil : Sorted ([] : KeyedList α) :=
  List.Pairwise.nil

theorem sorted_insert (key : String) (value : α) {entries : KeyedList α}
    (sorted : Sorted entries) : Sorted (insert key value entries) := by
  induction entries with
  | nil => exact List.pairwise_singleton _ _
  | cons head entries ih =>
      obtain ⟨found, old⟩ := head
      obtain ⟨below, rest⟩ := List.pairwise_cons.mp sorted
      rw [insert]
      split
      · rename_i before
        apply List.pairwise_cons.mpr
        refine ⟨?_, sorted⟩
        intro entry member
        rcases List.mem_cons.mp member with rfl | later
        · exact before
        · exact String.lt_trans before (below entry later)
      · rename_i notBefore
        split
        · rename_i same
          obtain rfl : key = found := by simpa using same
          exact List.pairwise_cons.mpr ⟨below, rest⟩
        · rename_i different
          -- The order is linear, so that the key comes after the head.
          have after : found < key := by
            apply String.not_le.mp
            intro notAfter
            have equal := String.le_antisymm notAfter (String.not_lt.mp notBefore)
            exact different (by simpa using equal)
          apply List.pairwise_cons.mpr
          refine ⟨?_, ih rest⟩
          intro entry member
          rcases mem_insert member with rfl | later
          · exact after
          · exact below entry later

theorem get?_eq_none_iff (key : String) (entries : KeyedList α) :
    get? key entries = none ↔ key ∉ keys entries := by
  induction entries with
  | nil => simp [keys]
  | cons entry entries ih =>
      obtain ⟨found, value⟩ := entry
      rw [get?_cons, keys, List.map_cons, List.mem_cons, not_or]
      split
      · rename_i same
        subst found
        simp
      · rename_i different
        rw [ih]
        exact ⟨fun absent => ⟨Ne.symm different, absent⟩, And.right⟩

/-- In sorted entries every entry is found under its key. -/
theorem Sorted.get?_of_mem {entries : KeyedList α} (sorted : Sorted entries) {key : String}
    {value : α} (member : (key, value) ∈ entries) : get? key entries = some value := by
  induction entries with
  | nil => cases member
  | cons entry entries ih =>
      obtain ⟨found, old⟩ := entry
      obtain ⟨below, rest⟩ := List.pairwise_cons.mp sorted
      rw [get?_cons]
      rcases List.mem_cons.mp member with same | later
      · cases same
        rw [if_pos rfl]
      · have apart : found ≠ key := String.ne_of_lt (below (key, value) later)
        rw [if_neg apart, ih rest later]

theorem Sorted.nodup_keys {entries : KeyedList α} (sorted : Sorted entries) :
    (keys entries).Nodup :=
  List.pairwise_map.mpr (sorted.imp String.ne_of_lt)

end KeyedList

end PluginHost
