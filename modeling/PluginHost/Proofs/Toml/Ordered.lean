import PluginHost.Proofs.Files.Listing
import PluginHost.Proofs.Json.Record
import PluginHost.Toml.Document

/-!
# Tables that are read list their keys in order

Whatever a document states, in headers, in dotted keys or in braces, and in whatever sequence: the
tables that come of it list their keys in order, each once.  Tables inside arrays are not looked
at.
-/

namespace PluginHost

open KeyedList

/-- A value whose tables outside arrays list their keys in order. -/
inductive TomlValue.Ordered : TomlValue → Prop where
  | single {value : TomlValue} (noTable : ∀ entries, value ≠ .table entries) : Ordered value
  | table {entries : List (String × TomlValue)} (sorted : Sorted entries)
      (inside : ∀ entry ∈ entries, Ordered entry.2) : Ordered (.table entries)

/-- An entry under construction whose tables outside arrays list their keys in order. -/
inductive TomlNode.Ordered : TomlNode → Prop where
  | value {found : TomlValue} (ordered : found.Ordered) : Ordered (.value found)
  | table (origin : TomlOrigin) {entries : List (String × TomlNode)} (sorted : Sorted entries)
      (inside : ∀ entry ∈ entries, Ordered entry.2) : Ordered (.table origin entries)
  | tables (items : List (List (String × TomlNode))) : Ordered (.tables items)

/-! ### Tables under construction -/

namespace TomlEntries

/-- Entries in order, with nothing but ordered entries in them. -/
structure Ordered (entries : TomlEntries) : Prop where
  sorted : Sorted entries
  inside : ∀ entry ∈ entries, entry.2.Ordered

theorem ordered_nil : Ordered [] :=
  ⟨sorted_nil, fun _ member => absurd member List.not_mem_nil⟩

variable {entries after : TomlEntries}

theorem Ordered.insert (ordered : Ordered entries) (key : String) {node : TomlNode}
    (nodeOrdered : node.Ordered) : Ordered (KeyedList.insert key node entries) where
  sorted := sorted_insert key node ordered.sorted
  inside entry member := by
    rcases mem_insert member with rfl | old
    · exact nodeOrdered
    · exact ordered.inside entry old

theorem Ordered.node (ordered : Ordered entries) (origin : TomlOrigin) :
    (TomlNode.table origin entries).Ordered :=
  .table origin ordered.sorted ordered.inside

theorem Ordered.inner (ordered : Ordered entries) {key : String} {origin : TomlOrigin}
    {inner : TomlEntries} (found : get? key entries = some (.table origin inner)) :
    Ordered inner := by
  cases ordered.inside _ (mem_of_get? found) with
  | table _ sorted inside => exact ⟨sorted, inside⟩

/-- What is changed at the end of a path stays ordered along the path. -/
theorem Ordered.updateAt {byDots : Bool}
    {change : TomlOrigin → TomlEntries → Option TomlEntries}
    (keeps : ∀ origin {entries after : TomlEntries}, Ordered entries →
      change origin entries = some after → Ordered after)
    {path : List String} {origin : TomlOrigin} (ordered : Ordered entries)
    (updates : updateAt byDots change path origin entries = some after) : Ordered after := by
  induction path generalizing origin entries after with
  | nil => exact keeps origin ordered updates
  | cons key path ih =>
      rw [TomlEntries.updateAt] at updates
      split at updates
      · obtain ⟨inner, changed, rfl⟩ := Option.map_eq_some_iff.mp updates
        exact ordered.insert key ((ih ordered_nil changed).node _)
      · cases updates
      · next inner found =>
          split at updates
          · cases updates
          · obtain ⟨inner, changed, rfl⟩ := Option.map_eq_some_iff.mp updates
            exact ordered.insert key ((ih (ordered.inner found) changed).node _)
      · split at updates
        · cases updates
        · obtain ⟨inner, -, rfl⟩ := Option.map_eq_some_iff.mp updates
          exact ordered.insert key (.tables _)

theorem Ordered.insertDotted (ordered : Ordered entries) {path : List String} {key : String}
    {node : TomlNode} (nodeOrdered : node.Ordered) {origin : TomlOrigin}
    (inserts : insertDotted path key node origin entries = some after) : Ordered after := by
  refine ordered.updateAt ?_ inserts
  intro _ entries after ordered changed
  split at changed
  · cases changed
  · obtain rfl := Option.some.inj changed
    exact ordered.insert key nodeOrdered

theorem Ordered.openTable (ordered : Ordered entries) {path : List String} {key : String}
    (opens : openTable path key entries = some after) : Ordered after := by
  refine ordered.updateAt ?_ opens
  intro _ entries after ordered changed
  split at changed
  · obtain rfl := Option.some.inj changed
    exact ordered.insert key (ordered_nil.node _)
  · next inner found =>
      obtain rfl := Option.some.inj changed
      exact ordered.insert key ((ordered.inner found).node _)
  · cases changed

theorem Ordered.openFurther (ordered : Ordered entries) {path : List String} {key : String}
    (opens : openFurther path key entries = some after) : Ordered after := by
  refine ordered.updateAt ?_ opens
  intro _ entries after ordered changed
  split at changed
  · obtain rfl := Option.some.inj changed
    exact ordered.insert key (.tables _)
  · obtain rfl := Option.some.inj changed
    exact ordered.insert key (.tables _)
  · cases changed

theorem Ordered.insertUnder (ordered : Ordered entries) {header path : List String}
    {key : String} {node : TomlNode} (nodeOrdered : node.Ordered)
    (inserts : insertUnder header path key node entries = some after) : Ordered after :=
  ordered.updateAt (fun _ _ _ ordered inserts => ordered.insertDotted nodeOrdered inserts) inserts

end TomlEntries

/-! ### Finished tables -/

theorem TomlNode.entryValues_eq_map (entries : List (String × TomlNode)) :
    entryValues entries = entries.map fun entry => (entry.1, entry.2.toValue) := by
  induction entries with
  | nil => rw [entryValues, List.map_nil]
  | cons entry entries ih => rw [entryValues, ih, List.map_cons]

theorem TomlNode.Ordered.toValue {node : TomlNode} (ordered : node.Ordered) :
    node.toValue.Ordered := by
  induction ordered with
  | value ordered => simpa [TomlNode.toValue] using ordered
  | table origin sorted inside ih =>
      rw [TomlNode.toValue, entryValues_eq_map]
      refine .table (List.pairwise_map.mpr sorted) ?_
      intro entry member
      obtain ⟨before, among, rfl⟩ := List.mem_map.mp member
      exact ih before among
  | tables items =>
      rw [TomlNode.toValue]
      exact .single fun _ impossible => by cases impossible

theorem TomlEntries.Ordered.entryValues {entries : TomlEntries} (ordered : Ordered entries) :
    (TomlValue.table (TomlNode.entryValues entries)).Ordered := by
  have table := (ordered.node .stated).toValue
  rwa [TomlNode.toValue] at table

/-! ### Reading -/

namespace TomlReader

theorem eq_ok_of_committed {α : Type} {step : Except TomlFault α} {result : α}
    (reads : committed step = .ok result) : step = .ok result := by
  cases step with
  | error fault => cases reads
  | ok found => exact reads

theorem eq_ok_of_optionally {α : Type} {text rest : List Char} {step : Step α} {read : α}
    (reads : optionally text step = .ok (some read, rest)) : step = .ok (read, rest) := by
  cases step with
  | error fault =>
      rw [optionally] at reads
      split at reads <;> cases reads
  | ok found =>
      obtain ⟨value, after⟩ := found
      cases reads
      rfl

theorem eq_ok_of_orElse {α : Type} {first : Step α} {second : Unit → Step α} {read : α × List Char}
    (reads : orElse first second = .ok read) : first = .ok read ∨ second () = .ok read := by
  cases first with
  | ok found => exact .inl reads
  | error fault =>
      rw [orElse] at reads
      split at reads
      · cases reads
      · exact .inr reads

variable {text rest : List Char} {read : TomlValue}

theorem ordered_numberOrDate (reads : numberOrDate text = .ok (read, rest)) : read.Ordered := by
  rcases eq_ok_of_orElse reads with date | other
  · obtain ⟨found, -, same⟩ := exists_of_map_eq_ok date
    cases same
    exact .single nofun
  · rcases eq_ok_of_orElse other with float | integer
    · obtain ⟨found, -, same⟩ := exists_of_map_eq_ok float
      cases same
      exact .single nofun
    · obtain ⟨found, -, same⟩ := exists_of_map_eq_ok integer
      cases same
      exact .single nofun

/-- What is written without brackets or braces is no table. -/
theorem ordered_scalar (reads : scalar text = .ok (read, rest)) : read.Ordered := by
  have mapped {α : Type} {step : Step α} (change : α → TomlValue)
      (single : ∀ found entries, change found ≠ .table entries)
      (reads : (step.map fun (value, rest) => (change value, rest)) = .ok (read, rest)) :
      read.Ordered := by
    obtain ⟨found, -, same⟩ := exists_of_map_eq_ok reads
    cases same
    exact .single (single found.1)
  have word {letters : List Char} (value : TomlValue) (single : ∀ entries, value ≠ .table entries)
      (reads : wordValue letters value text = .ok (read, rest)) : read.Ordered := by
    obtain ⟨found, -, same⟩ := exists_of_map_eq_ok reads
    cases same
    exact .single single
  cases text with
  | nil => cases reads
  | cons c more =>
      rw [scalar] at reads
      split at reads
      · exact mapped .text nofun reads
      · split at reads
        · exact ordered_numberOrDate reads
        · split at reads
          · exact mapped .integer nofun reads
          · split at reads
            · exact mapped .float nofun reads
            · split at reads
              · exact word (.boolean true) nofun reads
              · split at reads
                · exact word (.boolean false) nofun reads
                · split at reads
                  · exact mapped .float nofun reads
                  · cases reads

/-- The values and the pairs that are read in a number of steps are ordered. -/
structure ReadsOrdered (fuel : Nat) : Prop where
  value : ∀ {depth text read rest}, value fuel depth text = .ok (read, rest) → read.Ordered
  pair : ∀ {depth text entry rest}, pair fuel depth text = .ok (entry, rest) → entry.2.Ordered
  morePairs : ∀ {depth first text read rest}, first.2.Ordered →
    morePairs fuel depth first text = .ok (read, rest) → ∀ entry ∈ read, entry.2.Ordered
  pairs : ∀ {depth text read rest}, pairs fuel depth text = .ok (read, rest) →
    ∀ entry ∈ read, entry.2.Ordered

/-- A table in braces is filled by its pairs. -/
theorem ordered_of_pairs {read : List ((List String × String) × TomlNode)}
    (inside : ∀ entry ∈ read, entry.2.Ordered) {entries after : TomlEntries}
    (ordered : TomlEntries.Ordered entries)
    (fills : read.foldlM (fun entries ((path, key), value) =>
      TomlEntries.insertDotted path key value .stated entries) entries = some after) :
    TomlEntries.Ordered after := by
  induction read generalizing entries with
  | nil =>
      obtain rfl := Option.some.inj fills
      exact ordered
  | cons entry read ih =>
      obtain ⟨first, others⟩ := List.forall_mem_cons.mp inside
      rw [List.foldlM_cons] at fills
      obtain ⟨next, inserted, fills⟩ := Option.bind_eq_some_iff.mp fills
      exact ih others (ordered.insertDotted first inserted) fills

theorem readsOrdered_zero : ReadsOrdered 0 where
  value reads := by
    rw [TomlReader.value] at reads
    cases reads
  pair reads := by
    rw [TomlReader.pair] at reads
    cases reads
  morePairs ordered reads := by
    rw [TomlReader.morePairs] at reads
    cases reads
    simpa using ordered
  pairs reads := by
    rw [TomlReader.pairs] at reads
    cases reads
    simp

namespace ReadsOrdered

variable {fuel depth : Nat}

theorem value_succ (inner : ReadsOrdered fuel)
    (reads : TomlReader.value (fuel + 1) depth text = .ok (read, rest)) : read.Ordered := by
  unfold TomlReader.value at reads
  split at reads
  -- An array is no table, whatever its items are.
  · split at reads
    · cases reads
    · split at reads
      · cases reads
      · obtain ⟨found, -, same⟩ := exists_of_map_eq_ok reads
        cases same
        exact .single fun _ impossible => by cases impossible
  · split at reads
    · cases reads
    · split at reads
      · cases reads
      · next entries after found =>
          split at reads
          · cases reads
          · next filled fills =>
              obtain ⟨_, -, same⟩ := exists_of_map_eq_ok reads
              cases same
              have ordered := ordered_of_pairs (inner.pairs found) TomlEntries.ordered_nil fills
              exact ordered.entryValues
  · exact ordered_scalar reads

theorem pair_succ (inner : ReadsOrdered fuel) {entry : (List String × String) × TomlNode}
    (reads : TomlReader.pair (fuel + 1) depth text = .ok (entry, rest)) : entry.2.Ordered := by
  rw [TomlReader.pair] at reads
  split at reads
  · cases reads
  · split at reads
    · cases reads
    · split at reads
      · cases reads
      · next found =>
          cases reads
          exact .value (inner.value (eq_ok_of_committed found))

theorem morePairs_succ (inner : ReadsOrdered fuel)
    {first : (List String × String) × TomlNode} (ordered : first.2.Ordered)
    {read : List ((List String × String) × TomlNode)}
    (reads : TomlReader.morePairs (fuel + 1) depth first text = .ok (read, rest)) :
    ∀ entry ∈ read, entry.2.Ordered := by
  unfold TomlReader.morePairs at reads
  split at reads
  · split at reads
    · cases reads
    · cases reads
      simpa using ordered
    · next found =>
        obtain ⟨⟨more, after⟩, readMore, same⟩ := exists_of_map_eq_ok reads
        cases same
        have next := inner.pair (eq_ok_of_optionally found)
        exact List.forall_mem_cons.mpr ⟨ordered, inner.morePairs next readMore⟩
  · cases reads
    simpa using ordered

theorem pairs_succ (inner : ReadsOrdered fuel) {read : List ((List String × String) × TomlNode)}
    (reads : TomlReader.pairs (fuel + 1) depth text = .ok (read, rest)) :
    ∀ entry ∈ read, entry.2.Ordered := by
  rw [TomlReader.pairs] at reads
  split at reads
  · cases reads
  · cases reads
    simp
  · next found => exact inner.morePairs (inner.pair (eq_ok_of_optionally found)) reads

end ReadsOrdered

theorem readsOrdered (fuel : Nat) : ReadsOrdered fuel := by
  induction fuel with
  | zero => exact readsOrdered_zero
  | succ fuel inner =>
      exact ⟨inner.value_succ, inner.pair_succ,
        fun ordered reads => inner.morePairs_succ ordered reads, inner.pairs_succ⟩

/-! ### Documents -/

variable {draft after : Draft}

theorem eq_some_of_change {header : List String} {start : List Char}
    {entries : Option TomlEntries} (changes : draft.change header start entries = .ok after) :
    entries = some after.entries := by
  cases entries with
  | none => cases changes
  | some entries =>
      cases changes
      rfl

theorem ordered_furtherHeader (ordered : TomlEntries.Ordered draft.entries)
    (reads : furtherHeader draft text = .ok (after, rest)) : TomlEntries.Ordered after.entries := by
  rw [furtherHeader] at reads
  split at reads
  · cases reads
  · split at reads
    · cases reads
    · split at reads
      · cases reads
      · obtain ⟨_, changes, same⟩ := exists_of_map_eq_ok reads
        cases same
        exact ordered.openFurther (eq_some_of_change changes)

theorem ordered_plainHeader (ordered : TomlEntries.Ordered draft.entries)
    (reads : plainHeader draft text = .ok (after, rest)) : TomlEntries.Ordered after.entries := by
  rw [plainHeader] at reads
  split at reads
  · cases reads
  · split at reads
    · cases reads
    · split at reads
      · cases reads
      · obtain ⟨_, changes, same⟩ := exists_of_map_eq_ok reads
        cases same
        exact ordered.openTable (eq_some_of_change changes)

theorem ordered_header (ordered : TomlEntries.Ordered draft.entries)
    (reads : header draft text = .ok (after, rest)) : TomlEntries.Ordered after.entries := by
  unfold header at reads
  split at reads
  · exact ordered_furtherHeader ordered reads
  · exact ordered_plainHeader ordered reads
  · cases reads

theorem ordered_pairLine (ordered : TomlEntries.Ordered draft.entries)
    (reads : pairLine draft text = .ok (after, rest)) : TomlEntries.Ordered after.entries := by
  rw [pairLine] at reads
  split at reads
  · cases reads
  · split at reads
    · cases reads
    · split at reads
      · cases reads
      · next found =>
          split at reads
          · cases reads
          · obtain ⟨_, changes, same⟩ := exists_of_map_eq_ok reads
            cases same
            exact ordered.insertUnder (.value ((readsOrdered _).value found))
              (eq_some_of_change changes)

/-- Every part of a document leaves the tables in order. -/
theorem ordered_documentPart (ordered : TomlEntries.Ordered draft.entries)
    (reads : documentPart draft text = .ok (after, rest)) : TomlEntries.Ordered after.entries := by
  unfold documentPart at reads
  split at reads
  · obtain ⟨_, -, same⟩ := exists_of_map_eq_ok reads
    cases same
    exact ordered
  · exact ordered_header ordered reads
  · cases reads
    exact ordered
  · obtain ⟨_, -, same⟩ := exists_of_map_eq_ok reads
    cases same
    exact ordered
  · exact ordered_pairLine ordered reads

theorem ordered_documentParts {fuel : Nat} (ordered : TomlEntries.Ordered draft.entries)
    (reads : documentParts fuel draft text = .ok after) : TomlEntries.Ordered after.entries := by
  induction fuel generalizing draft text with
  | zero => cases reads
  | succ fuel ih =>
      rw [documentParts] at reads
      split at reads
      · cases reads
        exact ordered
      · split at reads
        · cases reads
        · next part => exact ih (ordered_documentPart ordered part) reads

end TomlReader

/-- Every document that is read lists its keys in order. -/
theorem TomlValue.ordered_of_parseDocument {text : String} {entries : List (String × TomlValue)}
    (reads : parseDocument text = .ok entries) : (TomlValue.table entries).Ordered := by
  rw [parseDocument] at reads
  split at reads
  · next parts =>
      cases reads
      exact (TomlReader.ordered_documentParts TomlEntries.ordered_nil parts).entryValues
  · cases reads

end PluginHost
