import PluginHost.Proofs.Files.Listing
import PluginHost.Proofs.Text.ByteOrder

/-!
# Directories that list their names in any order

Trees have the same content if every place has the same file in both, or a directory in both, or
nothing: the order in which their directories list what they have does not count.  A path leads to
the same place in both, and what is read there is the same.  Names that are put in order come in
the order of their bytes, and they come in the same order however they were listed.
-/

namespace PluginHost

/-! ### Names in order -/

theorem inOrder_perm (names : List String) : (inOrder names).Perm names := by
  rw [inOrder_eq_insertionSort]
  exact List.perm_insertionSort (· ≤ ·) names

theorem pairwise_inOrder (names : List String) : (inOrder names).Pairwise (· ≤ ·) := by
  rw [inOrder_eq_insertionSort]
  exact List.pairwise_insertionSort (· ≤ ·) names

/-- Names in order are in the order of their bytes. -/
theorem pairwise_encode_inOrder (names : List String) :
    ((inOrder names).map Text.encode).Pairwise (· ≤ ·) := by
  refine List.pairwise_map.mpr ((pairwise_inOrder names).imp ?_)
  intro first second notGreater
  rcases notGreater.lt_or_eq with less | rfl
  · exact List.le_of_lt (Text.encode_lt_encode less)
  · exact List.le_refl _

theorem inOrder_eq_of_perm {first second : List String} (listed : first.Perm second) :
    inOrder first = inOrder second :=
  List.Perm.eq_of_pairwise (fun _ _ _ _ => le_antisymm) (pairwise_inOrder first)
    (pairwise_inOrder second)
    ((inOrder_perm first).trans (listed.trans (inOrder_perm second).symm))

/-! ### Trees with the same content -/

namespace FileTree

/-- The bytes of a file, none of a directory. -/
def bytes? : FileTree → Option (List UInt8)
  | file bytes => some bytes
  | directory _ => none

/-- Trees with the same files and the same directories at the same places. -/
def SameContent (first second : FileTree) : Prop :=
  ∀ names, (descend? names first).map bytes? = (descend? names second).map bytes?

variable {first second : FileTree}

theorem SameContent.refl (tree : FileTree) : SameContent tree tree :=
  fun _ => rfl

theorem SameContent.directory {entries others : List (String × FileTree)}
    (under : ∀ name, Option.Rel SameContent (KeyedList.get? name entries)
      (KeyedList.get? name others)) :
    SameContent (.directory entries) (.directory others) := by
  intro names
  cases names with
  | nil => rfl
  | cons name names =>
      have here := under name
      rw [descend?, descend?]
      generalize KeyedList.get? name entries = found at here
      generalize KeyedList.get? name others = again at here
      cases here with
      | none => rfl
      | some same => exact same names

/-- A directory that lists what it has in another order has the same content. -/
theorem sameContent_of_perm {entries others : List (String × FileTree)}
    (listed : entries.Perm others) (distinct : (KeyedList.keys entries).Nodup) :
    SameContent (.directory entries) (.directory others) := by
  refine SameContent.directory fun name => ?_
  rw [KeyedList.get?_eq_of_perm listed distinct]
  cases KeyedList.get? name others with
  | none => exact .none
  | some tree => exact .some (.refl tree)

theorem contains_eq_isSome_descend? {root : FileTree} {place : List String}
    {entries : List (String × FileTree)} (reached : descend? place root = some (.directory entries))
    (name : String) :
    KeyedList.contains name entries = (descend? (place ++ [name]) root).isSome := by
  rw [descend?_append, reached, Option.bind_some, descend?, KeyedList.contains]
  cases KeyedList.get? name entries <;> rfl

theorem SameContent.isSome_eq (same : SameContent first second) (names : List String) :
    (descend? names first).isSome = (descend? names second).isSome := by
  have isSome := congrArg Option.isSome (same names)
  rwa [Option.isSome_map, Option.isSome_map] at isSome

/-- At every place both trees have nothing, or the same file, or a directory. -/
theorem SameContent.cases (same : SameContent first second) (names : List String) :
    (descend? names first = none ∧ descend? names second = none) ∨
      (∃ bytes, descend? names first = some (.file bytes) ∧
        descend? names second = some (.file bytes)) ∨
      ∃ entries others, descend? names first = some (.directory entries) ∧
        descend? names second = some (.directory others) := by
  have here := same names
  generalize descend? names first = found at here
  generalize descend? names second = again at here
  cases found <;> cases again
  · exact .inl ⟨rfl, rfl⟩
  · cases here
  · cases here
  · next tree other =>
      cases tree <;> cases other
      · cases here
        exact .inr (.inl ⟨_, rfl, rfl⟩)
      · cases here
      · cases here
      · exact .inr (.inr ⟨_, _, rfl, rfl⟩)

/-- Pieces of a path lead to the same place. -/
theorem SameContent.follow_eq (same : SameContent first second) (pieces place : List String) :
    follow first pieces place = follow second pieces place := by
  induction pieces generalizing place with
  | nil => rfl
  | cons piece pieces ih =>
      rw [follow, follow]
      rcases same.cases place.reverse with
        ⟨missing, absent⟩ | ⟨bytes, found, again⟩ | ⟨entries, others, found, again⟩
      · rw [missing, absent]
      · rw [found, again]
      · simp only [found, again, ih, contains_eq_isSome_descend? found,
          contains_eq_isSome_descend? again, same.isSome_eq]

theorem SameContent.locate_eq (same : SameContent first second)
    (workingDirectory path : String) :
    locate first workingDirectory path = locate second workingDirectory path := by
  simp only [locate, same.follow_eq]

/-- What a path leads to in two trees with the same content. -/
inductive SameFinding : Except FileProblem FileTree → Except FileProblem FileTree → Prop where
  | problem (problem : FileProblem) : SameFinding (.error problem) (.error problem)
  | file (bytes : List UInt8) : SameFinding (.ok (.file bytes)) (.ok (.file bytes))
  | directory (entries others : List (String × FileTree)) :
      SameFinding (.ok (.directory entries)) (.ok (.directory others))

theorem SameContent.find (same : SameContent first second) (workingDirectory path : String) :
    SameFinding (find first workingDirectory path) (find second workingDirectory path) := by
  rw [FileTree.find, FileTree.find, same.locate_eq]
  cases locate second workingDirectory path with
  | error problem => exact .problem problem
  | ok names =>
      dsimp only
      rcases same.cases names with
        ⟨missing, absent⟩ | ⟨bytes, found, again⟩ | ⟨entries, others, found, again⟩
      · rw [missing, absent]
        exact .problem .missing
      · rw [found, again]
        exact .file bytes
      · rw [found, again]
        exact .directory entries others

end FileTree

/-! ### Views of the same files -/

namespace FileView

/-- The same files, seen from the same working directory, with a directory that lists its names in
an order of its own in either view. -/
structure Relists (directory : String) (first second : FileView) : Prop where
  workingDirectory : first.workingDirectory = second.workingDirectory
  content : first.root.SameContent second.root
  listed : ∀ names others, first.listing directory = .ok names →
    second.listing directory = .ok others → names.Perm others

namespace Relists

variable {directory : String} {first second : FileView}

theorem find (relists : Relists directory first second) (path : String) :
    FileTree.SameFinding (first.find path) (second.find path) := by
  rw [FileView.find, FileView.find, relists.workingDirectory]
  exact relists.content.find _ path

/-- Both views say alike whether a path leads to a file or to a directory, and which bytes the file
has. -/
theorem reads_eq (relists : Relists directory first second) (path : String) :
    first.isFile path = second.isFile path ∧ first.isDirectory path = second.isDirectory path ∧
      first.readBytes path = second.readBytes path := by
  have findings := relists.find path
  simp only [isFile, isDirectory, readBytes]
  generalize first.find path = found at findings
  generalize second.find path = again at findings
  cases findings <;> exact ⟨rfl, rfl, rfl⟩

/-- Both views give the names of the directory in the same order. -/
theorem names_eq (relists : Relists directory first second) :
    first.names directory = second.names directory := by
  have findings := relists.find directory
  have listed := relists.listed
  rw [names, names]
  rw [listing, listing] at listed ⊢
  generalize first.find directory = found at findings listed
  generalize second.find directory = again at findings listed
  cases findings with
  | problem problem => rfl
  | file bytes => rfl
  | directory entries others =>
      exact congrArg Except.ok (inOrder_eq_of_perm (listed _ _ rfl rfl))

end Relists

end FileView

end PluginHost
