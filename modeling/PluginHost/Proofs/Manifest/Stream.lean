import PluginHost.Proofs.Archive.FirstManifest
import PluginHost.Proofs.Text.Decoding

/-!
# Reading the text of a manifest

A manifest is read from a stream that brings its bytes in pieces, each no longer than what is still
missing up to one byte above the greatest size.  The pieces make no difference: what is taken is the
beginning of the stream, and a text is read exactly if the stream is whole, within the greatest size
and the encoding of this text.
-/

namespace PluginHost

open Text

/-! ### Pieces of a stream -/

/-- A stream in the course of being read: what has been taken of it, and what is left. -/
structure StreamReading where
  taken : List UInt8
  left : ByteStream

namespace StreamReading

/-- Nothing has been taken yet. -/
def start (stream : ByteStream) : StreamReading :=
  ⟨[], stream⟩

/-- The stream brings a piece, which is no longer than what is missing up to a limit. -/
inductive Step (limit : Nat) : StreamReading → StreamReading → Prop where
  | bring {taken piece rest : List UInt8} {fault : Option StreamFault} (nonempty : piece ≠ [])
      (asked : taken.length + piece.length ≤ limit) :
      Step limit ⟨taken, ⟨piece ++ rest, fault⟩⟩ ⟨taken ++ piece, ⟨rest, fault⟩⟩

/-- What can come of a reading in any number of steps. -/
inductive Reaches (limit : Nat) (first : StreamReading) : StreamReading → Prop where
  | refl : Reaches limit first first
  | step {reading next : StreamReading} (before : Reaches limit first reading)
      (now : Step limit reading next) : Reaches limit first next

/-- How a reading ends: at the limit the stream is not asked any more; before it, the stream has
nothing left but a fault, or is at its end. -/
inductive Ends (limit : Nat) : StreamReading → Option StreamFault → Prop where
  | full {reading : StreamReading} (full : reading.taken.length = limit) : Ends limit reading none
  | exhausted {reading : StreamReading} (missing : reading.taken.length < limit)
      (nothing : reading.left.bytes = []) : Ends limit reading reading.left.fault

/-- What is true at every moment of reading a stream. -/
structure Consumes (limit : Nat) (stream : ByteStream) (reading : StreamReading) : Prop where
  within : reading.taken.length ≤ limit
  bytes : reading.taken ++ reading.left.bytes = stream.bytes
  fault : reading.left.fault = stream.fault

variable {limit : Nat} {stream : ByteStream} {reading next : StreamReading}
  {ending : Option StreamFault}

theorem consumes_start (limit : Nat) (stream : ByteStream) :
    Consumes limit stream (start stream) :=
  ⟨Nat.zero_le limit, rfl, rfl⟩

theorem Consumes.step (consumes : Consumes limit stream reading) (now : Step limit reading next) :
    Consumes limit stream next := by
  obtain ⟨nonempty, asked⟩ := now
  refine ⟨?_, ?_, consumes.fault⟩
  · rw [List.length_append]
    exact asked
  · rw [← consumes.bytes, List.append_assoc]

theorem Reaches.consumes (reached : Reaches limit (start stream) reading) :
    Consumes limit stream reading := by
  induction reached with
  | refl => exact consumes_start limit stream
  | step _ now ih => exact ih.step now

/-- With every piece there is less left. -/
theorem Step.left_lt (now : Step limit reading next) :
    next.left.bytes.length < reading.left.bytes.length := by
  obtain @⟨taken, piece, rest, fault, nonempty, asked⟩ := now
  have positive := List.length_pos_iff.mpr nonempty
  show rest.length < (piece ++ rest).length
  rw [List.length_append]
  omega

/-- A reading that has not ended can go on. -/
theorem Consumes.ends_or_step (consumes : Consumes limit stream reading) :
    (∃ ending, Ends limit reading ending) ∨ ∃ next, Step limit reading next := by
  obtain ⟨taken, ⟨bytes, fault⟩⟩ := reading
  rcases Nat.lt_or_eq_of_le consumes.within with missing | full
  · cases bytes with
    | nil => exact .inl ⟨_, .exhausted missing rfl⟩
    | cons byte rest =>
        have single :
            Step limit ⟨taken, ⟨[byte] ++ rest, fault⟩⟩ ⟨taken ++ [byte], ⟨rest, fault⟩⟩ :=
          .bring (List.cons_ne_nil byte []) missing
        exact .inr ⟨_, single⟩
  · exact .inl ⟨_, .full full⟩

/-- What has been taken in the end, and the fault that was met. -/
theorem Consumes.taken_eq (consumes : Consumes limit stream reading)
    (ends : Ends limit reading ending) :
    reading.taken = stream.bytes.take limit ∧
      ending = if stream.bytes.length < limit then stream.fault else none := by
  have bytes := consumes.bytes
  cases ends with
  | full full =>
      have beginning : (stream.bytes.take limit) = reading.taken := by
        rw [← bytes, ← full, List.take_left]
      have enough : ¬ stream.bytes.length < limit := by
        rw [← bytes, List.length_append]
        omega
      exact ⟨beginning.symm, (if_neg enough).symm⟩
  | exhausted missing nothing =>
      rw [nothing, List.append_nil] at bytes
      rw [← bytes, List.take_of_length_le consumes.within, if_pos missing, consumes.fault]
      exact ⟨rfl, rfl⟩

end StreamReading

/-! ### The text of a stream -/

variable {bytes : List UInt8} {stream : ByteStream} {path text : String}

theorem readManifestStream_of_le (fits : bytes.length ≤ maxManifestSize) (path : String) :
    readManifestStream path ⟨bytes, none⟩ =
      match decodeText? bytes with
      | none => .error (.unreadable path FileProblem.notText.message)
      | some text => .ok text := by
  have whole : bytes.take (maxManifestSize + 1) = bytes := List.take_of_length_le (by omega)
  have notAbove : ¬ maxManifestSize < bytes.length := Nat.not_lt.mpr fits
  cases decoded : decodeText? bytes with
  | none => simp only [readManifestStream, whole, ite_self, decoded]
  | some text => simp only [readManifestStream, whole, ite_self, decoded, if_neg notAbove]

theorem readManifestStream_of_fault {fault : StreamFault} (broken : stream.fault = some fault)
    (fits : stream.bytes.length ≤ maxManifestSize) (path : String) :
    readManifestStream path stream = .error (.unreadable path fault.message) := by
  have whole : stream.bytes.take (maxManifestSize + 1) = stream.bytes :=
    List.take_of_length_le (Nat.le_succ_of_le fits)
  simp only [readManifestStream, whole, if_pos fits, broken]

/-- Above the greatest size nothing is read, whatever comes after one byte above it: the bytes up
to there are no text, or they are one and too many. -/
theorem readManifestStream_of_lt (large : maxManifestSize < stream.bytes.length) (path : String) :
    readManifestStream path stream =
      .error (if (decodeText? (stream.bytes.take (maxManifestSize + 1))).isSome then .tooLong path
        else .unreadable path FileProblem.notText.message) := by
  have above : maxManifestSize < (stream.bytes.take (maxManifestSize + 1)).length := by
    rw [List.length_take]
    omega
  simp only [readManifestStream, if_neg (Nat.not_le.mpr above), if_pos above]
  cases decodeText? (stream.bytes.take (maxManifestSize + 1)) <;> rfl

theorem readManifestStream_eq_ok_iff :
    readManifestStream path stream = .ok text ↔
      stream.fault = none ∧ stream.bytes.length ≤ maxManifestSize ∧
        decodeText? stream.bytes = some text := by
  by_cases fits : stream.bytes.length ≤ maxManifestSize
  · cases broken : stream.fault with
    | some fault => simp [readManifestStream_of_fault broken fits]
    | none =>
        have whole : stream = ⟨stream.bytes, none⟩ := by rw [← broken]
        rw [whole, readManifestStream_of_le fits]
        cases decodeText? stream.bytes <;> simp [fits]
  · simp [readManifestStream_of_lt (Nat.lt_of_not_le fits), fits]

/-- What is read of a stream is read of the bytes that are taken from it. -/
theorem StreamReading.Consumes.readManifestStream_eq {reading : StreamReading}
    {ending : Option StreamFault} (consumes : Consumes (maxManifestSize + 1) stream reading)
    (ends : Ends (maxManifestSize + 1) reading ending) (path : String) :
    readManifestStream path stream = readManifestStream path ⟨reading.taken, ending⟩ := by
  obtain ⟨taken, met⟩ := consumes.taken_eq ends
  have again : reading.taken.take (maxManifestSize + 1) = reading.taken :=
    List.take_of_length_le consumes.within
  by_cases fits : stream.bytes.length ≤ maxManifestSize
  · have whole : reading.taken = stream.bytes := by
      rw [taken, List.take_of_length_le (Nat.le_succ_of_le fits)]
    rw [met, if_pos (Nat.lt_succ_of_le fits), whole]
  · have large : maxManifestSize < stream.bytes.length := Nat.lt_of_not_le fits
    have above : maxManifestSize < reading.taken.length := by
      rw [taken, List.length_take]
      omega
    rw [readManifestStream_of_lt large, readManifestStream_of_lt above, again, ← taken]

/-- What is read of a stream as the text of a manifest. -/
structure ReadsWithinLimit (path : String) (stream : ByteStream) : Prop where
  /-- A text is read exactly if the stream is whole, within the greatest size and the text's
  encoding. -/
  read_iff : ∀ text, readManifestStream path stream = .ok text ↔
    stream.fault = none ∧ stream.bytes.length ≤ maxManifestSize ∧
      text.toByteArray = stream.bytes.toByteArray
  readable_iff : (∃ text, readManifestStream path stream = .ok text) ↔
    stream.fault = none ∧ stream.bytes.length ≤ maxManifestSize ∧
      stream.bytes.toByteArray.IsValidUTF8
  /-- What is longer is refused: as no text where the bytes up to one above the greatest size are
  none, if only because a character is cut in two, and else as too long.  What comes after them
  makes no difference. -/
  refused : maxManifestSize < stream.bytes.length →
    readManifestStream path stream =
      .error (if (stream.bytes.take (maxManifestSize + 1)).toByteArray.IsValidUTF8 then
        .tooLong path else .unreadable path FileProblem.notText.message)
  /-- In whatever pieces the stream comes, reading it ends, and never takes more than one byte
  above the greatest size. -/
  consumed : ∀ reading, StreamReading.Reaches (maxManifestSize + 1) (.start stream) reading →
    StreamReading.Consumes (maxManifestSize + 1) stream reading ∧
      ((∃ ending, StreamReading.Ends (maxManifestSize + 1) reading ending) ∨
        ∃ next, StreamReading.Step (maxManifestSize + 1) reading next ∧
          next.left.bytes.length < reading.left.bytes.length)
  /-- What is read of the stream is read of the bytes that were taken. -/
  ofTaken : ∀ reading ending,
    StreamReading.Reaches (maxManifestSize + 1) (.start stream) reading →
      StreamReading.Ends (maxManifestSize + 1) reading ending →
        readManifestStream path stream = readManifestStream path ⟨reading.taken, ending⟩
  /-- The stream is that of a manifest file, which has no fault, or of an entry in an archive. -/
  ofFile : ∀ files directory, path = Path.join directory manifestFileName →
    FileView.readBytes files path = .ok stream.bytes → stream.fault = none →
      PluginBundle.directoryText files directory = readManifestStream path stream
  ofEntry : ∀ (listing : ArchiveListing) before entry after,
    listing.entries = before ++ entry :: after →
      (∀ other ∈ before, ¬ PathComponent.AtRoot other.path) → PathComponent.AtRoot entry.path →
        entry.content = stream → listing.manifestText path = readManifestStream path stream

theorem readManifestStream_withinLimit (path : String) (stream : ByteStream) :
    ReadsWithinLimit path stream where
  read_iff text := by
    rw [readManifestStream_eq_ok_iff, decodeText?_eq_some_iff]
  readable_iff := by
    simp only [readManifestStream_eq_ok_iff, exists_and_left, ← Option.isSome_iff_exists,
      isSome_decodeText?_iff]
  refused large := by
    simp only [readManifestStream_of_lt large, isSome_decodeText?_iff]
  consumed reading reached := by
    have consumes := reached.consumes
    refine ⟨consumes, consumes.ends_or_step.imp_right ?_⟩
    rintro ⟨next, now⟩
    exact ⟨next, now, now.left_lt⟩
  ofTaken reading ending reached ends := reached.consumes.readManifestStream_eq ends path
  ofFile := by
    rintro files directory rfl found whole
    obtain ⟨bytes, fault⟩ := stream
    obtain rfl : fault = none := whole
    simp only [PluginBundle.directoryText, found]
  ofEntry listing before entry after entries elsewhere atRoot content := by
    rw [ArchiveListing.manifestText_of_first entries elsewhere atRoot, content]

end PluginHost
