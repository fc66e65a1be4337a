import PluginHost.Proofs.Settings.Extraction

/-!
# One setting in place of another

What a section states for one of its fields can be replaced.  If the other fields take no notice of
the difference that two settings make to this one, then the sections that have the one and the other
are read alike up to this difference: both readings fail with the same fault, or what the one reads
is changed into what the other does.
-/

namespace PluginHost

open KeyedList

/-- A field takes no notice of a change that commutes with its update. -/
theorem SettingField.set_change {α β : Type} {key : String} {read : Setting → Except SettingFault β}
    {update : β → α → α} {change : α → α}
    (commutes : ∀ value stated, update value (change stated) = change (update value stated))
    (setting : Setting) (stated : α) :
    (SettingField.of key read update).set setting (change stated) =
      ((SettingField.of key read update).set setting stated).map change := by
  simp only [SettingField.of, commutes]
  cases read setting <;> rfl

namespace SectionForm

variable {α : Type}

/-- What a section states for a field: under its key, or at its place in a list. -/
def stated? (form : SectionForm α) (key : String) : Setting → Option Setting
  | .table _ entries => get? key entries
  | .list _ items => items[form.keys.idxOf key]?
  | .scalar _ _ => none

/-- A section with another setting in the place of what it states for a field. -/
def restate (form : SectionForm α) (key : String) (setting : Setting) : Setting → Setting
  | .table source entries => .table source (insert key setting entries)
  | .list source items => .list source (items.set (form.keys.idxOf key) setting)
  | .scalar source value => .scalar source value

/-- Two settings for a field that differ by a change, of which the other fields take no notice. -/
structure Differ (form : SectionForm α) (key : String) (change : α → α)
    (first second : Setting) : Prop where
  known : key ∈ form.keys
  distinct : form.keys.Nodup
  own : ∀ field ∈ form.fields, field.key = key → ∀ stated,
    field.set first stated = (field.set second stated).map change
  others : ∀ field ∈ form.fields, field.key ≠ key → ∀ setting stated,
    field.set setting (change stated) = (field.set setting stated).map change

variable {form : SectionForm α} {key : String} {change : α → α} {first second : Setting}
  {stated : α}

/-! ### Tables -/

theorem readEntry_own (differ : form.Differ key change first second) (stated : α) :
    form.readEntry stated (key, first) = (form.readEntry stated (key, second)).map change := by
  have found : ∃ field, form.fields.find? (fun field => field.key == key) = some field := by
    rw [← Option.isSome_iff_exists, List.find?_isSome]
    obtain ⟨field, member, same⟩ := List.mem_map.mp differ.known
    exact ⟨field, member, by simpa using same⟩
  obtain ⟨field, found⟩ := found
  have same : field.key = key := by simpa using List.find?_some found
  simp only [readEntry, found]
  rw [differ.own field (List.mem_of_find?_eq_some found) same stated]
  cases field.set second stated <;> rfl

theorem readEntry_other (differ : form.Differ key change first second) {entry : String × Setting}
    (apart : entry.1 ≠ key) (stated : α) :
    form.readEntry (change stated) entry = (form.readEntry stated entry).map change := by
  rw [readEntry, readEntry]
  cases found : form.fields.find? (fun field => field.key == entry.1) with
  | none => rfl
  | some field =>
      have same : field.key = entry.1 := by simpa using List.find?_some found
      dsimp only
      rw [differ.others field (List.mem_of_find?_eq_some found) (same ▸ apart)]
      cases field.set entry.2 stated <;> rfl

theorem foldlM_others (differ : form.Differ key change first second) {entries : SettingEntries}
    (absent : key ∉ KeyedList.keys entries) (stated : α) :
    entries.foldlM form.readEntry (change stated) =
      (entries.foldlM form.readEntry stated).map change := by
  induction entries generalizing stated with
  | nil => rfl
  | cons entry entries ih =>
      obtain ⟨apart, absent⟩ := not_or.mp (List.mem_cons.not.mp absent)
      rw [List.foldlM_cons, List.foldlM_cons, readEntry_other differ (Ne.symm apart)]
      cases form.readEntry stated entry with
      | error fault => rfl
      | ok next => exact ih absent next

theorem foldlM_insert (differ : form.Differ key change first second) {entries : SettingEntries}
    (sorted : Sorted entries) (stated : α) :
    (insert key first entries).foldlM form.readEntry stated =
      ((insert key second entries).foldlM form.readEntry stated).map change := by
  -- The entry itself makes the difference, and those behind it keep it.
  have behind {entries : SettingEntries} (absent : key ∉ KeyedList.keys entries) (stated : α) :
      ((key, first) :: entries).foldlM form.readEntry stated =
        (((key, second) :: entries).foldlM form.readEntry stated).map change := by
    rw [List.foldlM_cons, List.foldlM_cons, readEntry_own differ]
    cases form.readEntry stated (key, second) with
    | error fault => rfl
    | ok next => exact foldlM_others differ absent next
  induction entries generalizing stated with
  | nil => exact behind List.not_mem_nil stated
  | cons entry entries ih =>
      obtain ⟨found, old⟩ := entry
      rw [KeyedList.insert, KeyedList.insert]
      by_cases before : key < found
      · have absent : key ∉ KeyedList.keys ((found, old) :: entries) := by
          intro member
          obtain ⟨other, among, same⟩ := List.mem_map.mp member
          rcases List.mem_cons.mp among with rfl | later
          · exact absurd before (same ▸ String.lt_irrefl _)
          · have above := (List.pairwise_cons.mp sorted).1 other later
            exact absurd (String.lt_trans before above) (same ▸ String.lt_irrefl _)
        simpa only [before, if_true] using behind absent stated
      · by_cases same : key = found
        · subst same
          have absent := (List.nodup_cons.mp sorted.nodup_keys).1
          simpa [before] using behind absent stated
        · simp only [before, same, beq_iff_eq, if_false, List.foldlM_cons]
          cases form.readEntry stated (found, old) with
          | error fault => rfl
          | ok next => exact ih (List.Pairwise.of_cons sorted) next

/-! ### Lists -/

theorem readItems_others (differ : form.Differ key change first second)
    {fields : List (SettingField α)} (among : ∀ field ∈ fields, field ∈ form.fields)
    (absent : ∀ field ∈ fields, field.key ≠ key) (index : Nat) (items : List Setting) (stated : α) :
    readItems fields index items (change stated) =
      (readItems fields index items stated).map change := by
  induction fields generalizing index items stated with
  | nil => rfl
  | cons field fields ih =>
      obtain ⟨member, among⟩ := List.forall_mem_cons.mp among
      obtain ⟨apart, absent⟩ := List.forall_mem_cons.mp absent
      cases items with
      | nil => rfl
      | cons item items =>
          rw [readItems, readItems, differ.others field member apart]
          cases field.set item stated with
          | error fault => rfl
          | ok next => exact ih among absent (index + 1) items next

theorem readItems_set (differ : form.Differ key change first second)
    {fields : List (SettingField α)} (among : ∀ field ∈ fields, field ∈ form.fields)
    (known : key ∈ fields.map SettingField.key) (distinct : (fields.map SettingField.key).Nodup)
    (index : Nat) {items : List Setting}
    (states : (fields.map SettingField.key).idxOf key < items.length) (stated : α) :
    readItems fields index (items.set ((fields.map SettingField.key).idxOf key) first) stated =
      (readItems fields index (items.set ((fields.map SettingField.key).idxOf key) second)
        stated).map change := by
  induction fields generalizing index items stated with
  | nil => cases known
  | cons field fields ih =>
      obtain ⟨member, among⟩ := List.forall_mem_cons.mp among
      obtain ⟨newKey, distinct⟩ := List.nodup_cons.mp distinct
      rw [List.map_cons] at known states ⊢
      cases items with
      | nil => simp at states
      | cons item items =>
          by_cases same : field.key = key
          · subst same
            have absent : ∀ other ∈ fields, other.key ≠ field.key := fun other later same =>
              newKey (same ▸ List.mem_map_of_mem later)
            simp only [List.idxOf_cons_self, List.set_cons_zero, readItems]
            rw [differ.own field member rfl stated]
            cases field.set second stated with
            | error fault => rfl
            | ok next => exact readItems_others differ among absent (index + 1) items next
          · have later := (List.mem_cons.mp known).resolve_left (Ne.symm same)
            rw [List.idxOf_cons_ne _ same] at states ⊢
            simp only [List.set_cons_succ, readItems]
            cases field.set item stated with
            | error fault => rfl
            | ok next =>
                exact ih among later distinct (index + 1) (Nat.lt_of_succ_lt_succ states) next

/-! ### Sections -/

/-- Sections that state the one and the other setting are read alike up to the difference. -/
theorem read_restate (differ : form.Differ key change first second) {part : Setting}
    (ordered : part.Ordered) (states : (form.stated? key part).isSome = true) (stated : α) :
    form.read stated (form.restate key first part) =
      (form.read stated (form.restate key second part)).map change := by
  cases ordered with
  | scalar => cases states
  | table _ sorted _ => exact foldlM_insert differ sorted stated
  | list source items =>
      have fits : form.keys.idxOf key < items.length := by simpa [stated?] using states
      exact readItems_set differ (fun _ member => member) differ.known differ.distinct 0 fits stated

/-- A section that is given what it states anyway stays as it is. -/
theorem restate_stated {part setting : Setting} (ordered : part.Ordered)
    (states : form.stated? key part = some setting) : form.restate key setting part = part := by
  cases ordered with
  | scalar => cases states
  | table source sorted inside => rw [restate, sorted.insert_eq states]
  | list source items =>
      obtain ⟨fits, same⟩ := List.getElem?_eq_some_iff.mp states
      rw [restate, ← same, List.set_getElem_self]

theorem stated?_restate {part setting : Setting}
    (states : (form.stated? key part).isSome = true) :
    form.stated? key (form.restate key setting part) = some setting := by
  cases part with
  | scalar => cases states
  | table source entries => simp [stated?, restate, get?_insert]
  | list source items =>
      have fits : form.keys.idxOf key < items.length := by simpa [stated?] using states
      simp [stated?, restate, fits]

end SectionForm

end PluginHost
