import Mathlib.Data.List.Infix
import PluginHost.Proofs.Files.Listing
import PluginHost.Settings.Loading

/-!
# Files that are looked for upwards

A relative path is looked for in the working directory and then in the directories above it,
nearest first.  A path that leads to a file from the working directory is found there, so that
what is above does not count for it.
-/

namespace PluginHost

open Text

/-! ### Pieces of paths -/

namespace Path

/-- Whether a piece of a path leads somewhere. -/
def leads (piece : String) : Bool :=
  piece != "" && piece != "."

variable {directory path : String} {names : List String}

theorem parts_eq (path : String) : parts path = (pieces path).filter leads :=
  rfl

theorem noSlash_of_mem_pieces {piece : String} (member : piece ∈ pieces path) :
    '/' ∉ piece.toList :=
  not_mem_of_mem_split member

/-- Names without slashes are the pieces of the path that lists them. -/
theorem pieces_intercalate (notEmpty : names ≠ []) (noSlash : ∀ name ∈ names, '/' ∉ name.toList) :
    pieces ("/".intercalate names) = names :=
  isCutInto_iff.mp ⟨notEmpty, noSlash, rfl⟩

theorem isAbsolute_ofParts (names : List String) : isAbsolute (ofParts names) = true := by
  rw [ofParts, isAbsolute_append (by decide)]
  rfl

theorem parts_ofParts (noSlash : ∀ name ∈ names, '/' ∉ name.toList) :
    parts (ofParts names) = names.filter leads := by
  cases names with
  | nil => rfl
  | cons name names =>
      have spelled := pieces_append "" ("/".intercalate (name :: names))
      rw [String.empty_append, pieces_intercalate (by simp) noSlash] at spelled
      rw [parts_eq, ofParts, spelled]
      rfl

/-- The path that is made of a path's parts has the same parts. -/
theorem parts_ofParts_parts (path : String) : parts (ofParts (parts path)) = parts path := by
  have noSlash : ∀ name ∈ parts path, '/' ∉ name.toList := fun name member =>
    noSlash_of_mem_pieces (List.mem_of_mem_filter member)
  rw [parts_ofParts noSlash, parts_eq, List.filter_filter]
  simp only [Bool.and_self]

theorem ne_empty_of_isAbsolute (fromRoot : isAbsolute path = true) : path ≠ "" := by
  rintro rfl
  cases fromRoot

theorem join_of_isAbsolute (fromRoot : isAbsolute path = true) (directory : String) :
    join directory path = path := by
  rw [join, fromRoot, Bool.true_or, if_pos rfl]

theorem isAbsolute_join (relative : isAbsolute path = false) (directory : String) :
    isAbsolute (join directory path) = isAbsolute directory := by
  by_cases empty : directory = ""
  · rw [join, relative, empty]
    exact relative
  · rw [join_eq_append empty relative, String.append_assoc, isAbsolute_append empty]

/-- The first piece of an absolute path is the empty one before the slash of the root. -/
theorem exists_pieces_of_isAbsolute (fromRoot : isAbsolute path = true) :
    ∃ rest, pieces path = "" :: rest := by
  rw [isAbsolute] at fromRoot
  rw [pieces, split]
  cases letters : path.toList with
  | nil => simp [letters] at fromRoot
  | cons c rest =>
      obtain rfl : c = '/' := by simpa [letters] using fromRoot
      exact ⟨(splitList '/' rest).map String.ofList, rfl⟩

/-- A path whose first piece is empty and not its last one starts at the root. -/
theorem isAbsolute_of_pieces {rest : List String} (spelled : pieces path = "" :: rest)
    (more : rest ≠ []) : isAbsolute path = true := by
  rw [isAbsolute]
  rw [pieces, split] at spelled
  cases letters : path.toList with
  | nil =>
      rw [letters] at spelled
      exact absurd (List.cons.inj spelled).2.symm more
  | cons c rest =>
      rw [letters, splitList] at spelled
      by_cases separates : (c == '/') = true
      · rw [List.head?_cons, eq_of_beq separates]
        rfl
      · rw [if_neg separates] at spelled
        split at spelled
        · simp at spelled
        · simp at spelled

/-- The pieces of a path that is joined to a directory: those of the path after pieces that lead
where the directory is. -/
theorem pieces_join_parts (notEmpty : directory ≠ "") (relative : isAbsolute path = false) :
    ∃ front, front ≠ [] ∧ pieces (join directory path) = front ++ pieces path ∧
      front.filter leads = parts directory := by
  rcases pieces_join notEmpty relative with opened | ⟨front, notNil, closed, opened⟩
  · exact ⟨pieces directory, pieces_ne_nil directory, opened, rfl⟩
  · refine ⟨front, notNil, opened, ?_⟩
    rw [parts_eq, closed, List.filter_append]
    exact (List.append_nil _).symm

/-- Where pieces of a path lead from a place when nothing is missing on the way; the names of
places are listed innermost first. -/
def arrival : List String → List String → List String
  | [], place => place
  | piece :: pieces, place =>
    if piece == "" || piece == "." then arrival pieces place
    else if piece == ".." then arrival pieces place.tail
    else arrival pieces (piece :: place)

end Path

/-! ### Following pieces -/

namespace FileTree

variable {root : FileTree} {workingDirectory directory path : String}

/-- A piece that leads nowhere can be left out before others. -/
theorem follow_skip {piece : String} (stays : Path.leads piece = false) {rest : List String}
    (more : rest ≠ []) (place : List String) :
    follow root (piece :: rest) place = follow root rest place := by
  have skipped : (piece == "" || piece == ".") = true := by
    rw [Path.leads, bne, bne, ← Bool.not_or, Bool.not_eq_false'] at stays
    exact stays
  cases rest with
  | nil => exact absurd rfl more
  | cons next rest =>
      rw [follow]
      split
      · next missing => simp [follow, missing]
      · next blocked => simp [follow, blocked]
      · rw [if_pos skipped]

theorem follow_filter {back : List String} (more : back ≠ []) (front place : List String) :
    follow root (front ++ back) place = follow root (front.filter Path.leads ++ back) place := by
  induction front generalizing place with
  | nil => rfl
  | cons piece front ih =>
      cases moves : Path.leads piece with
      | false =>
          rw [List.cons_append, follow_skip moves (by simp [more]), ih,
            List.filter_cons_of_neg (by simp [moves])]
      | true =>
          rw [List.filter_cons_of_pos moves, List.cons_append, List.cons_append, follow, follow]
          simp only [ih]

/-- A path that is joined to an absolute directory is followed from the root through the parts of
the directory. -/
theorem locate_join_parts (fromRoot : Path.isAbsolute directory = true)
    (relative : Path.isAbsolute path = false) :
    locate root workingDirectory (Path.join directory path) =
      (follow root (Path.parts directory ++ Path.pieces path) []).map List.reverse := by
  obtain ⟨front, notNil, spelled, sameParts⟩ :=
    Path.pieces_join_parts (Path.ne_empty_of_isAbsolute fromRoot) relative
  have absolute : Path.isAbsolute (Path.join directory path) = true := by
    rw [Path.isAbsolute_join relative, fromRoot]
  have ending := Path.pieces_ne_nil path
  cases front with
  | nil => exact absurd rfl notNil
  | cons first front =>
      obtain ⟨rest, opened⟩ := Path.exists_pieces_of_isAbsolute absolute
      obtain ⟨rfl, -⟩ := List.cons.inj (spelled.symm.trans opened)
      rw [locate_eq (Path.ne_empty_of_isAbsolute absolute)
          (by rw [Path.join_of_isAbsolute absolute, spelled, List.cons_append]) (by simp [ending]),
        follow_filter ending, ← sameParts]
      rfl

theorem locate_join_self (notEmpty : path ≠ "")
    (fromRoot : Path.isAbsolute (Path.join workingDirectory path) = true) :
    locate root workingDirectory (Path.join workingDirectory path) =
      locate root workingDirectory path := by
  simp [locate, Path.join_of_isAbsolute fromRoot, Path.ne_empty_of_isAbsolute fromRoot, notEmpty]

/-- A path that leads somewhere leads there also from the absolute path that is made of the parts
of the working directory. -/
theorem locate_join_ofParts (notEmpty : path ≠ "") (relative : Path.isAbsolute path = false)
    (fromRoot : Path.isAbsolute workingDirectory = true) :
    locate root workingDirectory
        (Path.join (Path.ofParts (Path.parts workingDirectory)) path) =
      locate root workingDirectory path := by
  rw [locate_join_parts (Path.isAbsolute_ofParts _) relative, Path.parts_ofParts_parts,
    ← locate_join_parts fromRoot relative,
    locate_join_self notEmpty (by rw [Path.isAbsolute_join relative, fromRoot])]

/-- Only the pieces decide where a path leads that leads somewhere. -/
theorem eq_arrival_of_follow {pieces place after : List String}
    (followed : follow root pieces place = .ok after) : after = Path.arrival pieces place := by
  induction pieces generalizing place with
  | nil => exact (Except.ok.inj followed).symm
  | cons piece pieces ih =>
      rw [follow] at followed
      rw [Path.arrival]
      split at followed
      · cases followed
      · cases followed
      · split at followed
        · next stays => rw [if_pos stays, ih followed]
        · next moves =>
            rw [if_neg moves]
            split at followed
            · next up => rw [if_pos up, ih followed]
            · next down =>
                rw [if_neg down]
                split at followed
                · exact ih followed
                · cases followed

theorem locate_unique {other : FileTree} {names otherNames : List String}
    (located : locate root workingDirectory path = .ok names)
    (otherLocated : locate other workingDirectory path = .ok otherNames) : names = otherNames := by
  obtain ⟨-, pieces, spelled, -, followed⟩ := exists_pieces_of_locate located
  obtain ⟨-, otherPieces, otherSpelled, -, otherFollowed⟩ := exists_pieces_of_locate otherLocated
  -- The tree takes part only in whether the pieces can be followed.
  obtain rfl : pieces = otherPieces := (List.cons.inj (spelled.symm.trans otherSpelled)).2
  exact List.reverse_inj.mp
    ((eq_arrival_of_follow followed).trans (eq_arrival_of_follow otherFollowed).symm)

end FileTree

namespace FileView

variable {files : FileView} {path : String}

theorem isFile_iff : files.isFile path = true ↔ ∃ bytes, files.find path = .ok (.file bytes) := by
  rw [isFile]
  split
  · next bytes found => exact iff_of_true rfl ⟨bytes, found⟩
  · next other => exact iff_of_false (by simp) fun ⟨bytes, found⟩ => other bytes found

theorem isFile_congr {other : FileView} {otherPath : String}
    (same : other.find otherPath = files.find path) :
    other.isFile otherPath = files.isFile path := by
  rw [isFile, same, isFile]

theorem readText_congr {other : FileView} {otherPath : String}
    (same : other.find otherPath = files.find path) :
    other.readText otherPath = files.readText path := by
  rw [readText, readText, readBytes, readBytes, same]

theorem ne_empty_of_isFile (isFile : files.isFile path = true) : path ≠ "" := by
  rintro rfl
  obtain ⟨bytes, found⟩ := isFile_iff.mp isFile
  cases found

/-- Where a file is does not depend on what else there is. -/
theorem canonical_congr {other : FileView} (same : other.find path = files.find path)
    (sameDirectory : other.workingDirectory = files.workingDirectory)
    (isFile : files.isFile path = true) : other.canonical path = files.canonical path := by
  obtain ⟨bytes, found⟩ := isFile_iff.mp isFile
  obtain ⟨names, located, -⟩ := FileTree.exists_names_of_find found
  obtain ⟨otherNames, otherLocated, -⟩ := FileTree.exists_names_of_find (same.trans found)
  rw [sameDirectory] at otherLocated
  obtain rfl := FileTree.locate_unique located otherLocated
  rw [canonical, canonical, sameDirectory, located, otherLocated]

/-- Files are found from absolute working directories. -/
theorem isAbsolute_of_isFile (isFile : files.isFile path = true)
    (relative : Path.isAbsolute path = false) :
    Path.isAbsolute files.workingDirectory = true := by
  obtain ⟨bytes, found⟩ := isFile_iff.mp isFile
  obtain ⟨names, located, -⟩ := FileTree.exists_names_of_find found
  obtain ⟨-, pieces, spelled, more, -⟩ := FileTree.exists_pieces_of_locate located
  rw [← Path.isAbsolute_join relative]
  exact Path.isAbsolute_of_pieces spelled more

end FileView

/-! ### Looking upwards -/

namespace Path

/-- The nearest directory with a property, from the place that names lead to up to the root: the
one of the longest leading part of the names that has it. -/
structure IsNearest (names : List String) (has : String → Bool) (above : List String) : Prop where
  leading : above <+: names
  holds : has (ofParts above) = true
  nearer : ∀ longer, longer <+: names → above.length < longer.length →
    has (ofParts longer) = false

variable {has : String → Bool} {above : List String}

theorem isNearest_self {names : List String} (holds : has (ofParts names) = true) :
    IsNearest names has names := by
  refine ⟨List.prefix_rfl, holds, fun longer leading shorter => ?_⟩
  exact absurd leading.length_le (Nat.not_le.mpr shorter)

theorem isNearest_nil_iff : IsNearest [] has above ↔ above = [] ∧ has (ofParts []) = true := by
  constructor
  · intro nearest
    obtain rfl := List.prefix_nil.mp nearest.leading
    exact ⟨rfl, nearest.holds⟩
  · rintro ⟨rfl, holds⟩
    exact isNearest_self holds

/-- The innermost directory is the nearest if it has the property; otherwise it does not count. -/
theorem isNearest_append_iff (names : List String) (name : String) :
    IsNearest (names ++ [name]) has above ↔
      if has (ofParts (names ++ [name])) then above = names ++ [name]
      else IsNearest names has above := by
  split
  · next inside =>
      constructor
      · intro nearest
        rcases List.prefix_concat_iff.mp nearest.leading with same | inner
        · exact same
        · have shorter : above.length < (names ++ [name]).length := by
            rw [List.length_append, List.length_singleton]
            exact Nat.lt_succ_of_le inner.length_le
          have skipped := nearest.nearer _ List.prefix_rfl shorter
          rw [inside] at skipped
          cases skipped
      · rintro rfl
        exact isNearest_self inside
  · next outside =>
      constructor
      · intro nearest
        rcases List.prefix_concat_iff.mp nearest.leading with rfl | inner
        · exact absurd nearest.holds outside
        · exact ⟨inner, nearest.holds, fun longer leading =>
            nearest.nearer longer (leading.trans (List.prefix_append _ _))⟩
      · intro nearest
        refine ⟨nearest.leading.trans (List.prefix_append _ _), nearest.holds, ?_⟩
        intro longer leading shorter
        rcases List.prefix_concat_iff.mp leading with rfl | inner
        · simpa using outside
        · exact nearest.nearer longer inner shorter

theorem upwards_append (names : List String) (name : String) :
    upwards (names ++ [name]).reverse = ofParts (names ++ [name]) :: upwards names.reverse := by
  simp [upwards]

theorem find?_upwards_iff {names : List String} {found : String} :
    (upwards names.reverse).find? has = some found ↔
      ∃ above, IsNearest names has above ∧ ofParts above = found := by
  induction names using List.reverseRecOn with
  | nil => simp [upwards, isNearest_nil_iff]
  | append_singleton names name ih =>
      simp only [upwards_append, List.find?_cons, isNearest_append_iff]
      cases has (ofParts (names ++ [name])) with
      | true => simp
      | false => simpa using ih

end Path

namespace Surroundings

variable {files : FileView} {path found : String}

/-- The path under which a file is found: an absolute path as it is, a relative one from the
nearest directory that has it, of the working directory and those above it. -/
inductive Locates (files : FileView) (path : String) : String → Prop where
  | absolute (fromRoot : Path.isAbsolute path = true) (isFile : files.isFile path = true) :
      Locates files path path
  | nearest {above : List String} (relative : Path.isAbsolute path = false)
      (isNearest : Path.IsNearest (Path.parts files.workingDirectory)
        (fun directory => files.isFile (Path.join directory path)) above) :
      Locates files path (Path.join (Path.ofParts above) path)

theorem findUpwards?_eq_some_iff :
    findUpwards? files path = some found ↔ Locates files path found := by
  rw [findUpwards?]
  by_cases fromRoot : Path.isAbsolute path = true
  · rw [if_pos fromRoot, Option.ite_none_right_eq_some]
    constructor
    · rintro ⟨isFile, same⟩
      obtain rfl := Option.some.inj same
      exact .absolute fromRoot isFile
    · rintro (⟨-, isFile⟩ | ⟨relative, -⟩)
      · exact ⟨isFile, rfl⟩
      · rw [fromRoot] at relative
        cases relative
  · rw [if_neg fromRoot, Path.ancestors, List.find?_map, Option.map_eq_some_iff]
    simp only [Path.find?_upwards_iff, Function.comp_def]
    constructor
    · rintro ⟨directory, ⟨above, isNearest, rfl⟩, rfl⟩
      exact .nearest (by simpa using fromRoot) isNearest
    · rintro (⟨absolute, -⟩ | ⟨-, isNearest⟩)
      · exact absurd absolute fromRoot
      · exact ⟨_, ⟨_, isNearest, rfl⟩, rfl⟩

/-- A path that leads to a file is found where it leads, whatever else there is. -/
theorem findUpwards?_of_isFile (isFile : files.isFile path = true) :
    ∃ found, findUpwards? files path = some found ∧ files.find found = files.find path ∧
      found = if Path.isAbsolute path then path
        else Path.join (Path.ofParts (Path.parts files.workingDirectory)) path := by
  cases fromRoot : Path.isAbsolute path with
  | true =>
      exact ⟨path, findUpwards?_eq_some_iff.mpr (.absolute fromRoot isFile), rfl, rfl⟩
  | false =>
      have same : files.find (Path.join (Path.ofParts (Path.parts files.workingDirectory)) path) =
          files.find path := by
        rw [FileView.find, FileTree.find, FileTree.locate_join_ofParts
          (FileView.ne_empty_of_isFile isFile) fromRoot
          (FileView.isAbsolute_of_isFile isFile fromRoot)]
        rfl
      have here := (FileView.isFile_congr same).trans isFile
      exact ⟨_, findUpwards?_eq_some_iff.mpr (.nearest fromRoot (Path.isNearest_self here)),
        same, rfl⟩

end Surroundings

end PluginHost
