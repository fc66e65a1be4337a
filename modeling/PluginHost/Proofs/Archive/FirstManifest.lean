import PluginHost.Plugin.Bundle
import PluginHost.Proofs.Archive.Listing

/-!
# The manifest in an archive

The manifest of an archive is the first entry whose path leads to the manifest file at the root.
What stands before this entry is passed over, and what comes after it, a broken end included, is
not looked at.
-/

namespace PluginHost

open Text

/-! ### Paths of entries -/

/-- What a path leads through. -/
inductive PathComponent where
  | root
  | current
  | parent
  | name (bytes : List UInt8)
deriving DecidableEq

namespace PathComponent

/-- Whether a piece between slashes leads anywhere. -/
def leads (piece : List UInt8) : Bool :=
  piece != [] && piece != [0x2e]

/-- The component of a piece that leads somewhere. -/
def ofPiece (piece : List UInt8) : PathComponent :=
  if piece = [0x2e, 0x2e] then parent else name piece

/-- The components of a path.  A single dot is one only at the front of a relative path. -/
def ofPath (path : List UInt8) : List PathComponent :=
  let others := ((pathPieces path).filter leads).map ofPiece
  if path.head? = some 0x2f then root :: others
  else if (pathPieces path).head? = some [0x2e] then current :: others
  else others

/-- A path that leads to the manifest file at the root of its archive. -/
def AtRoot (path : List UInt8) : Prop :=
  (ofPath path).filter (· ≠ current) = [name (encode manifestFileName)]

theorem ofPiece_ne_current (piece : List UInt8) : ofPiece piece ≠ current := by
  unfold ofPiece
  split_ifs <;> nofun

theorem ofPiece_eq_manifest_iff {piece : List UInt8} :
    ofPiece piece = name (encode manifestFileName) ↔ piece = encode manifestFileName := by
  have notParent : encode manifestFileName ≠ [0x2e, 0x2e] := by decide
  constructor
  · intro leads
    unfold ofPiece at leads
    split_ifs at leads
    exact name.inj leads
  · rintro rfl
    rw [ofPiece, if_neg notParent]

theorem filter_map_ofPiece (pieces : List (List UInt8)) :
    (pieces.map ofPiece).filter (· ≠ current) = pieces.map ofPiece := by
  refine List.filter_eq_self.mpr fun component member => ?_
  obtain ⟨piece, -, rfl⟩ := List.mem_map.mp member
  simpa using ofPiece_ne_current piece

theorem isRootManifest_iff (path : List UInt8) : isRootManifest path = true ↔ AtRoot path := by
  have pieces : ((pathPieces path).filter leads).map ofPiece = [name (encode manifestFileName)] ↔
      (pathPieces path).filter leads = [encode manifestFileName] := by
    simp [List.map_eq_singleton_iff, ofPiece_eq_manifest_iff]
  rw [isRootManifest, Bool.and_eq_true, bne_iff_ne, beq_iff_eq, AtRoot, ofPath]
  change path.head? ≠ some 0x2f ∧ (pathPieces path).filter leads = _ ↔ _
  by_cases absolute : path.head? = some 0x2f
  · simp [absolute]
  · rw [if_neg absolute, ← pieces]
    split_ifs
    · rw [List.filter_cons_of_neg (by simp), filter_map_ofPiece]
      exact and_iff_right absolute
    · rw [filter_map_ofPiece]
      exact and_iff_right absolute

/-- A path from the root, through a parent or with another name in it leads elsewhere. -/
theorem not_atRoot_of_mem {path : List UInt8} {component : PathComponent}
    (member : component ∈ ofPath path) (apart : component ≠ current)
    (other : component ≠ name (encode manifestFileName)) : ¬ AtRoot path := by
  intro atRoot
  have kept : component ∈ (ofPath path).filter (· ≠ current) :=
    List.mem_filter.mpr ⟨member, by simpa using apart⟩
  rw [atRoot] at kept
  exact other (List.mem_singleton.mp kept)

end PathComponent

open PathComponent

/-! ### The first entry -/

/-- What is read of the manifest in an archive, seen as the entries that are listed and the fault
that may come after them. -/
structure ReadsFirstManifest (listing : ArchiveListing) (path : String) : Prop where
  first : ∀ before entry after, listing.entries = before ++ entry :: after →
    (∀ other ∈ before, ¬ AtRoot other.path) → AtRoot entry.path →
      listing.manifestText path = readManifestStream path entry.content
  only : ∀ text, listing.manifestText path = .ok text →
    ∃ before entry after, listing.entries = before ++ entry :: after ∧
      (∀ other ∈ before, ¬ AtRoot other.path) ∧ AtRoot entry.path ∧
      readManifestStream path entry.content = .ok text
  /-- An entry elsewhere might as well not be there. -/
  elsewhere : ∀ before entry after, listing.entries = before ++ entry :: after →
    ¬ AtRoot entry.path →
      listing.manifestText path =
        ArchiveListing.manifestText ⟨before ++ after, listing.fault⟩ path
  /-- Nothing after an entry at the root has an influence, neither an entry nor a fault. -/
  unaffected : ∀ before entry after others fault,
    listing.entries = before ++ entry :: after → AtRoot entry.path →
      listing.manifestText path =
        ArchiveListing.manifestText ⟨before ++ entry :: others, fault⟩ path
  broken : ∀ fault, listing.fault = some fault →
    (∀ entry ∈ listing.entries, ¬ AtRoot entry.path) →
      listing.manifestText path = .error (.brokenArchive path fault)
  missing : listing.fault = none → (∀ entry ∈ listing.entries, ¬ AtRoot entry.path) →
    listing.manifestText path = .error (.notInArchive path)
  /-- The manifest of a bundle that is an archive is read from what its file unpacks to, and
  whatever goes wrong is an error of the manifest. -/
  ofFile : ∀ files bytes, FileView.readBytes files path = .ok bytes →
    Tar.list (Gzip.read bytes) = listing →
      PluginBundle.manifestText files ⟨path, .archive⟩ =
        (listing.manifestText path).mapError fun problem => .manifest problem.message
  /-- If the unpacked bytes are cut off after the content of an entry at the root, it makes no
  difference what takes the place of the rest. -/
  cutOff : ∀ front cut before entry after, Tar.list ⟨front, some cut⟩ = listing →
    listing.entries = before ++ entry :: after → AtRoot entry.path → entry.content.fault = none →
      ∀ rest fault, (Tar.list ⟨front ++ rest, fault⟩).manifestText path =
        listing.manifestText path

namespace ArchiveListing

variable {listing : ArchiveListing} {before after others : List ArchiveEntry}
  {entry : ArchiveEntry} {path : String}

theorem find?_eq_none_iff {entries : List ArchiveEntry} :
    (entries.find? fun entry => isRootManifest entry.path) = none ↔
      ∀ entry ∈ entries, ¬ AtRoot entry.path := by
  simp only [List.find?_eq_none, isRootManifest_iff]

/-- An entry at the root is found unless there is one before it. -/
theorem find?_append_of_atRoot (atRoot : AtRoot entry.path) :
    ((before ++ entry :: after).find? fun entry => isRootManifest entry.path) =
      some ((before.find? fun entry => isRootManifest entry.path).getD entry) := by
  have found : isRootManifest entry.path = true := (isRootManifest_iff entry.path).mpr atRoot
  cases earlier : before.find? fun entry => isRootManifest entry.path with
  | none => simp [List.find?_append, earlier, found]
  | some other => simp [List.find?_append, earlier]

theorem find?_append_of_elsewhere (elsewhere : ¬ AtRoot entry.path) :
    ((before ++ entry :: after).find? fun entry => isRootManifest entry.path) =
      (before ++ after).find? fun entry => isRootManifest entry.path := by
  have passed := (isRootManifest_iff entry.path).not.mpr elsewhere
  simp [List.find?_append, passed]

theorem manifestText_of_find?
    (found : (listing.entries.find? fun entry => isRootManifest entry.path) = some entry) :
    listing.manifestText path = readManifestStream path entry.content := by
  rw [manifestText, found]

theorem manifestText_of_first (entries : listing.entries = before ++ entry :: after)
    (elsewhere : ∀ other ∈ before, ¬ AtRoot other.path) (atRoot : AtRoot entry.path) :
    listing.manifestText path = readManifestStream path entry.content := by
  apply manifestText_of_find?
  rw [entries, find?_append_of_atRoot atRoot, find?_eq_none_iff.mpr elsewhere, Option.getD_none]

theorem manifestText_of_none (nothing : ∀ entry ∈ listing.entries, ¬ AtRoot entry.path) :
    listing.manifestText path =
      .error (match listing.fault with
        | some fault => .brokenArchive path fault
        | none => .notInArchive path) := by
  rw [manifestText, find?_eq_none_iff.mpr nothing]
  cases listing.fault <;> rfl

/-- Every listing has a first entry at the root or none at all. -/
theorem first_or_none (listing : ArchiveListing) :
    (∃ before entry after, listing.entries = before ++ entry :: after ∧
      (∀ other ∈ before, ¬ AtRoot other.path) ∧ AtRoot entry.path) ∨
    ∀ entry ∈ listing.entries, ¬ AtRoot entry.path := by
  cases found : listing.entries.find? fun entry => isRootManifest entry.path with
  | none => exact .inr (find?_eq_none_iff.mp found)
  | some entry =>
      obtain ⟨atRoot, before, after, entries, elsewhere⟩ :=
        List.find?_eq_some_iff_append.mp found
      refine .inl ⟨before, entry, after, entries, ?_, (isRootManifest_iff _).mp atRoot⟩
      intro other member
      rw [← isRootManifest_iff]
      simpa using elsewhere other member

/-- Listings that agree up to an entry at the root have the same manifest. -/
theorem manifestText_congr {first second : ArchiveListing} (atRoot : AtRoot entry.path)
    (entries : first.entries = before ++ entry :: after)
    (also : second.entries = before ++ entry :: others) :
    first.manifestText path = second.manifestText path := by
  have found {listing : ArchiveListing} {after : List ArchiveEntry}
      (entries : listing.entries = before ++ entry :: after) :
      listing.manifestText path = readManifestStream path
        ((before.find? fun entry => isRootManifest entry.path).getD entry).content := by
    apply manifestText_of_find?
    rw [entries, find?_append_of_atRoot atRoot]
  rw [found entries, found also]

theorem readsFirstManifest (listing : ArchiveListing) (path : String) :
    ReadsFirstManifest listing path where
  first := by
    intro before entry after entries elsewhere atRoot
    exact manifestText_of_first entries elsewhere atRoot
  only := by
    intro text reads
    rcases listing.first_or_none with ⟨before, entry, after, entries, elsewhere, atRoot⟩ | nothing
    · refine ⟨before, entry, after, entries, elsewhere, atRoot, ?_⟩
      rw [← manifestText_of_first entries elsewhere atRoot, reads]
    · rw [manifestText_of_none nothing] at reads
      cases reads
  elsewhere := by
    intro before entry after entries elsewhere
    rw [manifestText, manifestText, entries, find?_append_of_elsewhere elsewhere]
  unaffected := by
    intro before entry after others fault entries atRoot
    exact manifestText_congr atRoot entries rfl
  broken := by
    intro fault met nothing
    rw [manifestText_of_none nothing, met]
  missing := by
    intro sound nothing
    rw [manifestText_of_none nothing, sound]
  ofFile := by
    intro files bytes found listed
    rw [PluginBundle.manifestText, PluginBundle.archiveText, found, ← listed]
    rfl
  cutOff := by
    intro front cut before entry after listed entries atRoot whole rest fault
    have kept : before ++ [entry] <+: (Tar.list ⟨front, some cut⟩).entries := by
      rw [listed, entries]
      exact ⟨after, by simp⟩
    obtain ⟨others, again⟩ := Tar.prefix_list_append whole kept rest fault
    rw [List.append_assoc, List.singleton_append] at again
    exact manifestText_congr atRoot again.symm entries

end ArchiveListing

end PluginHost
