import Mathlib.Data.List.Infix
import PluginHost.Archive.Tar

/-!
# Listing an archive that is cut off

The entries of an archive are listed from its front on, each as soon as its header and its content
have been read.  An entry whose content is whole before the archive is cut off, and every entry
before it, is therefore listed in the same way whatever takes the place of the rest.
-/

namespace PluginHost.Tar

variable {notes : Notes} {found : List ArchiveEntry} {fuel size : Nat} {stream : ByteStream}

/-! ### One entry -/

/-- The size of the content that a header announces, if the listing does not stop at it. -/
def announced? (notes : Notes) (header : List UInt8) : Option Nat :=
  if header.length < blockSize ∨ header.all (· == 0) = true then none
  else
    match checkSum header, entrySize notes header with
    | .ok (), .ok size => if Nat.pow 2 64 ≤ paddedSize size then none else some size
    | _, _ => none

/-- What is known and what is found after an entry; one that tells about the next is not found
itself. -/
def after (notes : Notes) (header : List UInt8) (content : ByteStream)
    (found : List ArchiveEntry) : Option Notes → Notes × List ArchiveEntry
  | some told => (told, found)
  | none => ({}, ⟨entryPath notes header, content⟩ :: found)

/-- The listing from the content of an entry on. -/
def listBehind (fuel size : Nat) (next : Notes × List ArchiveEntry) (behind : ByteStream) :
    ArchiveListing :=
  if (behind.bytes.take (paddedSize size)).length < paddedSize size then
    ⟨next.2.reverse, some (endFault behind .endInContent)⟩
  else
    listFrom fuel next.1 next.2 ⟨behind.bytes.drop (paddedSize size), behind.fault⟩

/-- The listing from a header on that announces a content. -/
def listEntry (fuel size : Nat) (notes : Notes) (found : List ArchiveEntry)
    (header : List UInt8) (behind : ByteStream) : ArchiveListing :=
  match note notes (kindOf header) (contentOf size behind) with
  | .error fault => ⟨found.reverse, some fault⟩
  | .ok noted => listBehind fuel size (after notes header (contentOf size behind) found noted) behind

theorem listFrom_of_stop (stops : announced? notes (stream.bytes.take blockSize) = none) :
    (listFrom (fuel + 1) notes found stream).entries = found.reverse := by
  rw [announced?] at stops
  rw [listFrom]
  generalize stream.bytes.take blockSize = header at stops
  dsimp only
  split
  · split <;> rfl
  · next full =>
      split
      · rfl
      · next notZero =>
          rw [if_neg (not_or.mpr ⟨full, notZero⟩)] at stops
          split
          · rfl
          · rfl
          · next checked sized =>
              simp only [checked, sized] at stops
              split at stops
              · next large => rw [if_pos large]
              · cases stops

theorem listFrom_of_announced
    (announces : announced? notes (stream.bytes.take blockSize) = some size) :
    listFrom (fuel + 1) notes found stream =
      listEntry fuel size notes found (stream.bytes.take blockSize)
        ⟨stream.bytes.drop blockSize, stream.fault⟩ := by
  rw [announced?] at announces
  split at announces
  · cases announces
  · next goesOn =>
      obtain ⟨full, notZero⟩ := not_or.mp goesOn
      split at announces
      · next checked sized =>
          split at announces
          · cases announces
          · next small =>
              obtain rfl := Option.some.inj announces
              rw [listFrom, listEntry]
              simp only [if_neg full, if_neg notZero, checked, sized, if_neg small]
              cases note notes (kindOf (stream.bytes.take blockSize))
                  (contentOf _ ⟨stream.bytes.drop blockSize, stream.fault⟩) with
              | error fault => rfl
              | ok noted => cases noted <;> rfl
      · cases announces

theorem le_length_of_announced {front : List UInt8}
    (announces : announced? notes (front.take blockSize) = some size) :
    blockSize ≤ front.length := by
  by_contra short
  have cutOff : (front.take blockSize).length < blockSize := by
    rw [List.length_take]
    omega
  rw [announced?, if_pos (.inl cutOff)] at announces
  cases announces

/-! ### What was found stays -/

theorem reverse_prefix_after (notes : Notes) (header : List UInt8) (content : ByteStream)
    (found : List ArchiveEntry) (noted : Option Notes) :
    found.reverse <+: (after notes header content found noted).2.reverse := by
  cases noted with
  | none => simp [after]
  | some told => exact List.prefix_rfl

theorem reverse_prefix_listFrom (fuel : Nat) (notes : Notes) (found : List ArchiveEntry)
    (stream : ByteStream) : found.reverse <+: (listFrom fuel notes found stream).entries := by
  induction fuel generalizing notes found stream with
  | zero => exact List.prefix_rfl
  | succ fuel ih =>
      cases announces : announced? notes (stream.bytes.take blockSize) with
      | none => rw [listFrom_of_stop announces]
      | some size =>
          rw [listFrom_of_announced announces, listEntry]
          split
          · exact List.prefix_rfl
          · next noted _ =>
              apply (reverse_prefix_after notes (stream.bytes.take blockSize)
                (contentOf size ⟨stream.bytes.drop blockSize, stream.fault⟩) found noted).trans
              rw [listBehind]
              split
              · exact List.prefix_rfl
              · exact ih _ _ _

theorem reverse_prefix_listBehind (fuel size : Nat) (next : Notes × List ArchiveEntry)
    (behind : ByteStream) : next.2.reverse <+: (listBehind fuel size next behind).entries := by
  rw [listBehind]
  split
  · exact List.prefix_rfl
  · exact reverse_prefix_listFrom _ _ _ _

/-! ### Cutting off -/

theorem contentOf_append {front : List UInt8} (whole : size ≤ front.length) (rest : List UInt8)
    (cut fault : Option StreamFault) :
    contentOf size ⟨front ++ rest, fault⟩ = contentOf size ⟨front, cut⟩ := by
  have enough : ¬ (front.take size).length < size := by
    rw [List.length_take]
    omega
  rw [contentOf, contentOf, List.take_append_of_le_length whole, if_neg enough, if_neg enough]

/-- An entry that tells about the next one is read whole. -/
theorem note_of_cutOff {kind : Char} {content : ByteStream} {fault : StreamFault}
    {noted : Option Notes} (cutOff : content.fault = some fault)
    (notes_eq : note notes kind content = .ok noted) : noted = none := by
  have unread : noteOf content = .error (.stream fault) := by rw [noteOf, cutOff]
  unfold note at notes_eq
  rw [unread] at notes_eq
  split_ifs at notes_eq
  all_goals cases notes_eq
  rfl

theorem le_paddedSize (size : Nat) : size ≤ paddedSize size := by
  rw [paddedSize, blockSize]
  omega

variable {before : List ArchiveEntry} {entry : ArchiveEntry} {cut : StreamFault}

/-- The content of an entry is whole, or the archive is cut off in it. -/
theorem prefix_listEntry_of_short {header front : List UInt8} (whole : entry.content.fault = none)
    (short : front.length < size)
    (listed : before ++ [entry] <+:
      (listEntry fuel size notes found header ⟨front, some cut⟩).entries) :
    before ++ [entry] <+: found.reverse := by
  have cutOff : (contentOf size ⟨front, some cut⟩).fault = some cut := by
    have fewer : (front.take size).length < size := by
      rw [List.length_take]
      omega
    rw [contentOf, if_pos fewer]
  rw [listEntry] at listed
  split at listed
  · exact listed
  · next noted given =>
      obtain rfl := note_of_cutOff cutOff given
      have padded := le_paddedSize size
      have ends : (front.take (paddedSize size)).length < paddedSize size := by
        rw [List.length_take]
        omega
      rw [listBehind, if_pos ends] at listed
      simp only [after, List.reverse_cons] at listed
      rcases List.prefix_concat_iff.mp listed with same | earlier
      · obtain ⟨-, same⟩ := List.append_inj' same rfl
        obtain rfl := List.singleton_inj.mp same
        cases cutOff.symm.trans whole
      · exact earlier

/-- Behind a whole content both archives go on in the same way, if their listings do. -/
theorem prefix_listBehind_append {others : Nat} {next : Notes × List ArchiveEntry}
    {front rest : List UInt8} {fault : Option StreamFault}
    (goesOn : ∀ front : List UInt8,
      before ++ [entry] <+: (listFrom fuel next.1 next.2 ⟨front, some cut⟩).entries →
        before ++ [entry] <+: (listFrom others next.1 next.2 ⟨front ++ rest, fault⟩).entries)
    (listed : before ++ [entry] <+: (listBehind fuel size next ⟨front, some cut⟩).entries) :
    before ++ [entry] <+: (listBehind others size next ⟨front ++ rest, fault⟩).entries := by
  by_cases padded : paddedSize size ≤ front.length
  · have enough : ¬ (front.take (paddedSize size)).length < paddedSize size := by
      rw [List.length_take]
      omega
    have also : ¬ ((front ++ rest).take (paddedSize size)).length < paddedSize size := by
      rw [List.take_append_of_le_length padded]
      exact enough
    rw [listBehind, if_neg enough] at listed
    rw [listBehind, if_neg also, List.drop_append_of_le_length padded]
    exact goesOn _ listed
  · have ends : (front.take (paddedSize size)).length < paddedSize size := by
      rw [List.length_take]
      omega
    rw [listBehind, if_pos ends] at listed
    exact listed.trans (reverse_prefix_listBehind _ _ _ _)

theorem prefix_listFrom_append {fuel others : Nat} {front rest : List UInt8}
    {fault : Option StreamFault} (whole : entry.content.fault = none) (enough : fuel ≤ others)
    (listed : before ++ [entry] <+: (listFrom fuel notes found ⟨front, some cut⟩).entries) :
    before ++ [entry] <+: (listFrom others notes found ⟨front ++ rest, fault⟩).entries := by
  induction fuel generalizing others notes found front with
  | zero => exact listed.trans (reverse_prefix_listFrom _ _ _ _)
  | succ fuel ih =>
      obtain ⟨others, rfl⟩ := Nat.exists_eq_add_one_of_ne_zero (show others ≠ 0 by omega)
      cases announces : announced? notes (front.take blockSize) with
      | none =>
          rw [listFrom_of_stop announces] at listed
          exact listed.trans (reverse_prefix_listFrom _ _ _ _)
      | some size =>
          have full := le_length_of_announced announces
          have header : (front ++ rest).take blockSize = front.take blockSize :=
            List.take_append_of_le_length full
          have behind : (front ++ rest).drop blockSize = front.drop blockSize ++ rest :=
            List.drop_append_of_le_length full
          have again : announced? notes ((front ++ rest).take blockSize) = some size := by
            rw [header, announces]
          rw [listFrom_of_announced announces] at listed
          by_cases short : (front.drop blockSize).length < size
          · exact (prefix_listEntry_of_short whole short listed).trans
              (reverse_prefix_listFrom _ _ _ _)
          · have content := contentOf_append (Nat.le_of_not_lt short) rest (some cut) fault
            rw [listFrom_of_announced again, header, behind]
            rw [listEntry] at listed ⊢
            rw [content]
            cases given : note notes (kindOf (front.take blockSize))
                (contentOf size ⟨front.drop blockSize, some cut⟩) with
            | error _ =>
                simp only [given] at listed ⊢
                exact listed
            | ok noted =>
                simp only [given] at listed ⊢
                exact prefix_listBehind_append
                  (fun _ => ih (Nat.le_of_succ_le_succ enough)) listed

/-- What is listed up to an entry whose content is whole before the archive is cut off is listed
whatever takes the place of the rest. -/
theorem prefix_list_append {front : List UInt8} (whole : entry.content.fault = none)
    (listed : before ++ [entry] <+: (list ⟨front, some cut⟩).entries) (rest : List UInt8)
    (fault : Option StreamFault) : before ++ [entry] <+: (list ⟨front ++ rest, fault⟩).entries := by
  refine prefix_listFrom_append whole ?_ listed
  have more : front.length ≤ (front ++ rest).length := by simp
  exact Nat.add_le_add_right (Nat.div_le_div_right more) 1

end PluginHost.Tar
