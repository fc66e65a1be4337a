import Mathlib.Data.List.Sort
import Mathlib.Data.String.Basic
import PluginHost.Files.Tree
import PluginHost.Proofs.KeyedList
import PluginHost.Proofs.Text.Pieces

/-!
# What is at the entries of a directory

A directory that is found at a path decides what is found at the path joined with a name: the
tree that the directory has under the name, wherever in the tree of files the directory itself
is and however its path is written.  Nothing else of the tree of files counts.
-/

namespace PluginHost

open Text

/-! ### Paths -/

namespace Path

/-- A name that an entry of a directory can have. -/
structure IsName (name : String) : Prop where
  notEmpty : name ≠ ""
  notHere : name ≠ "."
  notUp : name ≠ ".."
  noSlash : '/' ∉ name.toList

/-- What stands between a path and one that is joined to it. -/
def separatorAfter (path : String) : String :=
  if path.toList.getLast? == some '/' then "" else "/"

variable {directory name path : String}

theorem pieces_append (before after : String) :
    pieces (before ++ "/" ++ after) = pieces before ++ pieces after := by
  simp [pieces, split, splitList_append]

theorem pieces_ne_nil (path : String) : pieces path ≠ [] :=
  split_ne_nil '/' path

theorem pieces_of_noSlash {piece : String} (noSlash : '/' ∉ piece.toList) :
    pieces piece = [piece] := by
  simp [pieces, split, splitList_of_not_mem noSlash]

theorem IsName.pieces_eq (isName : IsName name) : pieces name = [name] :=
  pieces_of_noSlash isName.noSlash

theorem IsName.not_isAbsolute (isName : IsName name) : isAbsolute name = false := by
  rw [isAbsolute]
  cases letters : name.toList with
  | nil => rfl
  | cons c rest =>
      have apart := isName.noSlash
      rw [letters] at apart
      simpa using fun same : c = '/' => apart (by simp [same])

theorem join_eq_append (notEmpty : directory ≠ "") (relative : isAbsolute path = false) :
    join directory path = directory ++ separatorAfter directory ++ path := by
  have follows : ¬ (isAbsolute path || directory == "") = true := by simp [relative, notEmpty]
  rw [join, if_neg follows, separatorAfter]
  split
  · rw [String.append_empty]
  · rfl

theorem toList_ne_nil (notEmpty : path ≠ "") : path.toList ≠ [] := by
  simpa using notEmpty

theorem isAbsolute_append (notEmpty : path ≠ "") (more : String) :
    isAbsolute (path ++ more) = isAbsolute path := by
  rw [isAbsolute, isAbsolute, String.toList_append,
    List.head?_append_of_ne_nil _ (toList_ne_nil notEmpty)]

theorem separatorAfter_append (notEmpty : path ≠ "") (front : String) :
    separatorAfter (front ++ path) = separatorAfter path := by
  rw [separatorAfter, separatorAfter, String.toList_append,
    List.getLast?_append_of_ne_nil _ (toList_ne_nil notEmpty)]

theorem append_ne_empty (notEmpty : path ≠ "") (more : String) : path ++ more ≠ "" := by
  simp [notEmpty]

theorem IsName.join_ne_empty (isName : IsName name) (notEmpty : directory ≠ "") :
    join directory name ≠ "" := by
  rw [join_eq_append notEmpty isName.not_isAbsolute, String.append_assoc]
  exact append_ne_empty notEmpty _

/-- Different names lead to different paths from a directory. -/
theorem IsName.join_inj {first second : String} (firstName : IsName first)
    (secondName : IsName second) (notEmpty : directory ≠ "") :
    join directory first = join directory second ↔ first = second := by
  rw [join_eq_append notEmpty firstName.not_isAbsolute,
    join_eq_append notEmpty secondName.not_isAbsolute, String.append_right_inj]

/-- It makes no difference whether a name is joined to a path before or after the path is joined
to a directory. -/
theorem IsName.join_join (isName : IsName name) (notEmpty : directory ≠ "") (base : String) :
    join base (join directory name) = join (join base directory) name := by
  have joined := join_eq_append notEmpty isName.not_isAbsolute
  rw [String.append_assoc] at joined
  have begins : isAbsolute (join directory name) = isAbsolute directory := by
    rw [joined, isAbsolute_append notEmpty]
  by_cases fromRoot : (isAbsolute directory || base == "") = true
  · have asWritten {path : String} (same : isAbsolute path = isAbsolute directory) :
        join base path = path := by
      rw [join, same, if_pos fromRoot]
    rw [asWritten begins, asWritten rfl]
  · obtain ⟨relative, based⟩ : isAbsolute directory = false ∧ base ≠ "" := by
      simpa using fromRoot
    have ends := separatorAfter_append notEmpty (base ++ separatorAfter base)
    rw [join_eq_append based (begins.trans relative), joined, join_eq_append based relative,
      join_eq_append (by simp [notEmpty]) isName.not_isAbsolute, ends]
    simp only [String.append_assoc]

/-- The pieces of a path that another one is joined to, without the empty one that a closing slash
leaves, come before those of the other. -/
theorem pieces_join (notEmpty : directory ≠ "") (relative : isAbsolute path = false) :
    pieces (join directory path) = pieces directory ++ pieces path ∨
      ∃ front, front ≠ [] ∧ pieces directory = front ++ [""] ∧
        pieces (join directory path) = front ++ pieces path := by
  rw [join_eq_append notEmpty relative, separatorAfter]
  split
  · next ends =>
      obtain ⟨front, letters⟩ := List.getLast?_eq_some_iff.mp (by simpa using ends)
      obtain rfl : directory = String.ofList front ++ "/" :=
        String.toList_inj.mp (by simp [letters])
      refine .inr ⟨pieces (String.ofList front), pieces_ne_nil _, ?_, ?_⟩
      · simpa [pieces, split, splitList] using pieces_append (String.ofList front) ""
      · rw [String.append_empty, pieces_append]
  · exact .inl (pieces_append directory path)

end Path

namespace FileTree

variable {root : FileTree}

theorem follow_append (root : FileTree) (front back place : List String) :
    follow root (front ++ back) place =
      (follow root front place).bind (follow root back) := by
  induction front generalizing place with
  | nil => rfl
  | cons piece front ih =>
      rw [List.cons_append, follow, follow]
      cases descend? place.reverse root with
      | none => rfl
      | some tree =>
          cases tree with
          | file bytes => rfl
          | directory entries =>
              simp only [ih]
              split
              · rfl
              · split
                · rfl
                · split <;> rfl

theorem descend?_append (front back : List String) (tree : FileTree) :
    descend? (front ++ back) tree = (descend? front tree).bind (descend? back) := by
  induction front generalizing tree with
  | nil => rfl
  | cons name front ih =>
      cases tree with
      | file bytes => rfl
      | directory entries =>
          rw [List.cons_append, descend?, descend?, Option.bind_assoc]
          exact congrArg _ (funext ih)

/-- The empty piece after a closing slash leads nowhere else. -/
theorem follow_closing {place after : List String} (followed : follow root [""] place = .ok after) :
    after = place := by
  rw [follow] at followed
  split at followed
  · cases followed
  · cases followed
  · exact (Except.ok.inj followed).symm

/-- Where a path leads that is followed piece by piece from the root. -/
theorem locate_eq {workingDirectory path : String} {pieces : List String} (notEmpty : path ≠ "")
    (spelled : Path.pieces (Path.join workingDirectory path) = "" :: pieces)
    (leads : pieces ≠ []) :
    locate root workingDirectory path = (follow root pieces []).map List.reverse := by
  cases pieces with
  | nil => exact absurd rfl leads
  | cons piece pieces =>
      simp only [locate, if_neg (by simpa using notEmpty : ¬ (path == "") = true), spelled]

theorem exists_pieces_of_locate {workingDirectory path : String} {names : List String}
    (located : locate root workingDirectory path = .ok names) :
    path ≠ "" ∧ ∃ pieces, Path.pieces (Path.join workingDirectory path) = "" :: pieces ∧
      pieces ≠ [] ∧ follow root pieces [] = .ok names.reverse := by
  have notEmpty : path ≠ "" := by
    rintro rfl
    cases located
  simp only [locate, if_neg (by simpa using notEmpty : ¬ (path == "") = true)] at located
  split at located
  · next piece pieces spelled =>
      refine ⟨notEmpty, piece :: pieces, spelled, by simp, ?_⟩
      cases followed : follow root (piece :: pieces) [] with
      | error problem =>
          rw [followed] at located
          cases located
      | ok place =>
          rw [followed] at located
          obtain rfl : place.reverse = names := Except.ok.inj located
          rw [List.reverse_reverse]
  · cases located

/-- A name leads on from a directory to what the directory has under it. -/
theorem follow_name {name : String} (isName : Path.IsName name) {place : List String}
    {entries : List (String × FileTree)}
    (reached : descend? place.reverse root = some (directory entries)) :
    follow root [name] place =
      if KeyedList.contains name entries then .ok (name :: place) else .error .missing := by
  simp [follow, reached, isName.notEmpty, isName.notHere, isName.notUp]

theorem locate_join {workingDirectory path name : String} {names : List String}
    (located : locate root workingDirectory path = .ok names) (isName : Path.IsName name) :
    locate root workingDirectory (Path.join path name) =
      (follow root [name] names.reverse).map List.reverse := by
  obtain ⟨notEmpty, pieces, spelled, leads, followed⟩ := exists_pieces_of_locate located
  have wholeNotEmpty : Path.join workingDirectory path ≠ "" := by
    intro empty
    rw [empty] at spelled
    exact leads (List.cons.inj spelled).2.symm
  have joined := isName.join_join notEmpty workingDirectory
  have notEmptyJoined := isName.join_ne_empty notEmpty
  have appended := Path.pieces_join wholeNotEmpty isName.not_isAbsolute
  rw [isName.pieces_eq] at appended
  rcases appended with opened | ⟨front, -, closed, reopened⟩
  · rw [← joined, spelled, List.cons_append] at opened
    rw [locate_eq notEmptyJoined opened (by simp), follow_append, followed]
    rfl
  -- The path ends with a slash: its last piece is empty and leads nowhere else.
  · rw [spelled] at closed
    obtain ⟨rfl, same⟩ | ⟨before, rfl, rfl⟩ := List.cons_eq_append_iff.mp closed
    · exact absurd (List.cons.inj same).2.symm leads
    · rw [← joined, List.cons_append] at reopened
      rw [follow_append] at followed
      cases reached : follow root before [] with
      | error problem =>
          rw [reached] at followed
          cases followed
      | ok place =>
          rw [reached] at followed
          obtain rfl := follow_closing followed
          rw [locate_eq notEmptyJoined reopened (by simp), follow_append, reached]
          rfl

theorem exists_names_of_find {workingDirectory path : String} {tree : FileTree}
    (found : find root workingDirectory path = .ok tree) :
    ∃ names, locate root workingDirectory path = .ok names ∧ descend? names root = some tree := by
  rw [find] at found
  cases located : locate root workingDirectory path with
  | error problem =>
      rw [located] at found
      cases found
  | ok names =>
      rw [located] at found
      refine ⟨names, rfl, ?_⟩
      cases reached : descend? names root with
      | none => simp [reached] at found
      | some other =>
          simp only [reached] at found
          exact congrArg some (Except.ok.inj found)

/-- From a directory that a path leads to, a name that is joined to the path leads to what the
directory has under it. -/
theorem find_join {workingDirectory path name : String} {entries : List (String × FileTree)}
    (found : find root workingDirectory path = .ok (directory entries))
    (isName : Path.IsName name) :
    find root workingDirectory (Path.join path name) =
      match KeyedList.get? name entries with
      | some tree => .ok tree
      | none => .error .missing := by
  obtain ⟨names, located, reached⟩ := exists_names_of_find found
  have here : descend? names.reverse.reverse root = some (directory entries) := by
    rwa [List.reverse_reverse]
  rw [find, locate_join located isName, follow_name isName here, KeyedList.contains]
  cases under : KeyedList.get? name entries with
  | none => rfl
  | some tree =>
      have inside : descend? (names ++ [name]) root = some tree := by
        rw [descend?_append, reached]
        simp [descend?, under]
      simp [Except.map, inside]

end FileTree

/-! ### Names in order -/

theorem inOrder_eq_insertionSort (names : List String) :
    inOrder names = names.insertionSort (· ≤ ·) := by
  have insert (name : String) (sorted : List String) :
      insertName name sorted = sorted.orderedInsert (· ≤ ·) name := by
    induction sorted with
    | nil => rfl
    | cons other rest ih => rw [insertName, List.orderedInsert, ih]
  rw [inOrder, List.insertionSort]
  exact congrArg (List.foldr · [] names) (funext₂ insert)

theorem inOrder_of_pairwise {names : List String} (increasing : names.Pairwise (· ≤ ·)) :
    inOrder names = names := by
  rw [inOrder_eq_insertionSort, increasing.insertionSort_eq]

/-! ### Directories -/

namespace FileView

/-- Files in which a path leads to a directory with entries that have names and are in their
order. -/
structure Lists (files : FileView) (directory : String) (entries : KeyedList FileTree) :
    Prop where
  found : files.find directory = .ok (.directory entries)
  sorted : KeyedList.Sorted entries
  named : ∀ name ∈ KeyedList.keys entries, Path.IsName name

variable {files : FileView} {directory name : String} {entries : KeyedList FileTree}

theorem find_join (found : files.find directory = .ok (.directory entries))
    (isName : Path.IsName name) :
    files.find (Path.join directory name) =
      match KeyedList.get? name entries with
      | some tree => .ok tree
      | none => .error .missing :=
  FileTree.find_join found isName

theorem listing_eq (found : files.find directory = .ok (.directory entries)) :
    files.listing directory = .ok (KeyedList.keys entries) := by
  rw [listing, found]

theorem Lists.names_eq (lists : files.Lists directory entries) :
    files.names directory = .ok (KeyedList.keys entries) := by
  have increasing : (KeyedList.keys entries).Pairwise (· ≤ ·) :=
    List.pairwise_map.mpr (lists.sorted.imp le_of_lt)
  rw [names, listing_eq lists.found, Except.map, inOrder_of_pairwise increasing]

theorem Lists.entries_eq {others : KeyedList FileTree} (lists : files.Lists directory entries)
    (again : files.Lists directory others) : entries = others :=
  FileTree.directory.inj (Except.ok.inj (lists.found.symm.trans again.found))

theorem Lists.notEmpty (lists : files.Lists directory entries) : directory ≠ "" := by
  rintro rfl
  cases lists.found

end FileView

end PluginHost
