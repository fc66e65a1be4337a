import PluginHost.Archive.Gzip
import PluginHost.Text.Blank

/-!
# Archives of files

An archive is a sequence of entries, each a header of 512 bytes and a content that fills whole
blocks.  Some entries only tell the name or the size of the next one.  The listing of an
archive holds its entries up to the end, or up to a fault.
-/

namespace PluginHost

open Text

/-- Why an archive cannot be read on. -/
inductive ArchiveFault where
  | stream (fault : StreamFault)
  /-- A header is cut off. -/
  | partialHeader
  | headerChecksum
  /-- A field of a header is no number. -/
  | badNumber (text field : String) (path : List UInt8)
  /-- The archive ends inside the content of an entry. -/
  | endInContent
  /-- The size of an entry is beyond all archives. -/
  | tooLarge
  /-- Two entries of a kind tell about the same entry. -/
  | toldTwice (kind : String)
  /-- An entry tells about one that is not there. -/
  | toldOfNothing

/-- The text of bytes in which what is no text is replaced. -/
def shownBytes (bytes : List UInt8) : String :=
  symbolsText (decode bytes)

/-- The wording of a fault. -/
def ArchiveFault.message : ArchiveFault → String
  | stream fault => fault.message
  | partialHeader => "failed to read entire block"
  | headerChecksum => "archive header checksum mismatch"
  | badNumber text field path =>
    s!"numeric field was not a number: {text} when getting {field} for " ++ shownBytes path
  | endInContent => "unexpected EOF during skip"
  | tooLarge => "size overflow"
  | toldTwice kind => s!"two {kind} entries describing the same member"
  | toldOfNothing => "members found describing a future member but no future member found"

/-- An entry of an archive: its path, and the bytes of its content that are there. -/
structure ArchiveEntry where
  path : List UInt8
  content : ByteStream

/-- The entries of an archive, and the fault that is met after them, if there is one. -/
structure ArchiveListing where
  entries : List ArchiveEntry
  fault : Option ArchiveFault

namespace Tar

/-- The size of a block. -/
def blockSize : Nat := 512

/-! ### Headers -/

/-- The bytes of a field of a header. -/
def field (start size : Nat) (header : List UInt8) : List UInt8 :=
  (header.drop start).take size

/-- The bytes before the first zero byte. -/
def untilZero (bytes : List UInt8) : List UInt8 :=
  bytes.takeWhile (· != 0)

/-- The value of an octal digit. -/
def octalDigit? (c : Char) : Option Nat :=
  if '0' ≤ c && c ≤ '7' then some (c.toNat - '0'.toNat) else none

/-- The number below `2 ^ 64` that octal digits spell, perhaps after a plus sign. -/
def octal? (text : List Char) : Option Nat :=
  let digits :=
    match text with
    | '+' :: rest => rest
    | rest => rest
  if digits.isEmpty then none
  else
    (digits.foldlM (fun value c => (octalDigit? c).map (value * 8 + ·)) 0).filter (· < Nat.pow 2 64)

/-- The number that a field of octal digits holds. -/
def octalField (name : String) (path bytes : List UInt8) : Except ArchiveFault Nat :=
  let text := shownBytes (untilZero bytes)
  match octal? (trimList text.toList) with
  | some value => .ok value
  | none => .error (.badNumber text name path)

/-- The number that a field holds in octal digits, or in its last eight bytes, highest first,
if its first byte is marked. -/
def numberField (name : String) (path bytes : List UInt8) : Except ArchiveFault Nat :=
  match bytes with
  | first :: _ =>
    if 128 ≤ first.toNat then
      .ok ((bytes.drop (bytes.length - 8)).foldl (fun value byte => value * 256 + byte.toNat) 0)
    else octalField name path bytes
  | [] => octalField name path bytes

/-- Whether a header states that it keeps long paths in two fields. -/
def hasPathPrefix (header : List UInt8) : Bool :=
  field 257 8 header == encode "ustar\x0000"

/-- Whether a header states one of the two known layouts. -/
def isRecognized (header : List UInt8) : Bool :=
  hasPathPrefix header || field 257 8 header == encode "ustar  \x00"

/-- The path that a header holds. -/
def headerPath (header : List UInt8) : List UInt8 :=
  let name := untilZero (field 0 100 header)
  let leading := untilZero (field 345 155 header)
  if hasPathPrefix header && !leading.isEmpty then leading ++ 0x2f :: name else name

/-- The sum of the bytes of a header, in which the field of the sum itself counts as blanks. -/
def headerSum (header : List UInt8) : Nat :=
  (header.take 148 ++ header.drop 156).foldl (fun sum byte => sum + byte.toNat) (8 * 32)

/-- Checks the sum that a header states. -/
def checkSum (header : List UInt8) : Except ArchiveFault Unit :=
  match octalField "cksum" (headerPath header) (field 148 8 header) with
  | .error fault => .error fault
  | .ok stated =>
    if stated % Nat.pow 2 32 == headerSum header then .ok () else .error .headerChecksum

/-! ### What entries tell about the next one -/

/-- What is known about an entry before its header. -/
structure Notes where
  longPath : Option (List UInt8) := none
  longLink : Bool := false
  records : Option (List UInt8) := none

/-- The lines of bytes between line feeds. -/
def linesOfBytes : List UInt8 → List (List UInt8)
  | [] => [[]]
  | byte :: rest =>
    if byte == 0x0a then [] :: linesOfBytes rest
    else
      match linesOfBytes rest with
      | [] => [[byte]]
      | line :: lines => (byte :: line) :: lines

/-- The key and the value of a record, whose length is stated in front of it. -/
def recordOf? (line : List UInt8) : Option (List UInt8 × List UInt8) :=
  let size := line.takeWhile (· != 0x20)
  let pair := (line.drop (size.length + 1))
  let key := pair.takeWhile (· != 0x3d)
  let digits := (decodeText? size).map String.toList
  match digits.bind fun digits => if digits.all Char.isDigit then some digits else none with
  | none => none
  | some digits =>
    let stated := digits.foldl (fun value c => value * 10 + (c.toNat - '0'.toNat)) 0
    if !digits.isEmpty && stated == line.length + 1 && key.length < pair.length then
      some (key, pair.drop (key.length + 1))
    else
      none

/-- The lines of records up to the first empty one. -/
def recordLines (records : List UInt8) : List (List UInt8) :=
  (linesOfBytes records).takeWhile fun line => !line.isEmpty

/-- The path that records state. -/
def recordedPath? (records : List UInt8) : Option (List UInt8) :=
  (((recordLines records).filterMap recordOf?).find? fun record =>
    record.1 == encode "path").map Prod.snd

/-- The size that records state, unless a malformed one comes first. -/
def recordedSize? (records : List UInt8) : Option Nat :=
  let read := ((recordLines records).map recordOf?).takeWhile Option.isSome
  match (read.filterMap id).find? fun record => record.1 == encode "size" with
  | none => none
  | some (_, value) =>
    match (decodeText? value).map String.toList with
    | some (c :: digits) =>
      if (c :: digits).all Char.isDigit then
        some ((c :: digits).foldl (fun value c => value * 10 + (c.toNat - '0'.toNat)) 0)
      else none
    | _ => none

/-- The path of an entry from its header and what was told about it. -/
def entryPath (notes : Notes) (header : List UInt8) : List UInt8 :=
  match notes.longPath with
  | some path => if path.getLast? == some 0 then path.dropLast else path
  | none =>
    match notes.records.bind recordedPath? with
    | some path => path
    | none => headerPath header

/-! ### Listing -/

/-- The fault of a stream that ends where more bytes are needed. -/
def endFault (stream : ByteStream) (otherwise : ArchiveFault) : ArchiveFault :=
  match stream.fault with
  | some fault => .stream fault
  | none => otherwise

/-- The content of a size at the start of a stream.  It meets the stream's fault only if it is
cut off. -/
def contentOf (size : Nat) (stream : ByteStream) : ByteStream :=
  let taken := stream.bytes.take size
  ⟨taken, if taken.length < size then stream.fault else none⟩

/-- The content of an entry that tells about the next one. -/
def noteOf (content : ByteStream) : Except ArchiveFault (List UInt8) :=
  match content.fault with
  | some fault => .error (.stream fault)
  | none => .ok content.bytes

/-- What is known about the next entry after an entry of a kind, or none if the entry is one of
the archive's own. -/
def note (notes : Notes) (kind : Char) (content : ByteStream) :
    Except ArchiveFault (Option Notes) :=
  if kind == 'L' then
    if notes.longPath.isSome then .error (.toldTwice "long name")
    else (noteOf content).map fun path => some { notes with longPath := some path }
  else if kind == 'K' then
    if notes.longLink then .error (.toldTwice "long name")
    else (noteOf content).map fun _ => some { notes with longLink := true }
  else if kind == 'x' then
    if notes.records.isSome then .error (.toldTwice "pax extensions")
    else (noteOf content).map fun records => some { notes with records := some records }
  else .ok none

/-- Whether nothing was told about the next entry. -/
def Notes.isEmpty (notes : Notes) : Bool :=
  notes.longPath.isNone && !notes.longLink && notes.records.isNone

/-- The kind of an entry, which only a known layout can make one that tells about the next. -/
def kindOf (header : List UInt8) : Char :=
  if isRecognized header then Char.ofNat ((header[156]?).getD 0).toNat else '0'

/-- The size of an entry's content. -/
def entrySize (notes : Notes) (header : List UInt8) : Except ArchiveFault Nat :=
  match numberField "size" (headerPath header) (field 124 12 header) with
  | .error fault => .error fault
  | .ok 0 => .ok ((notes.records.bind recordedSize?).getD 0)
  | .ok size => .ok size

/-- The number of bytes of the blocks that a content fills. -/
def paddedSize (size : Nat) : Nat :=
  (size + blockSize - 1) / blockSize * blockSize

/-- The entries from the start of a header on, after those that were found, newest first. -/
def listFrom : Nat → Notes → List ArchiveEntry → ByteStream → ArchiveListing
  | 0, _, found, _ => ⟨found.reverse, none⟩
  | fuel + 1, notes, found, stream =>
    let stop (fault : Option ArchiveFault) : ArchiveListing := ⟨found.reverse, fault⟩
    let header := stream.bytes.take blockSize
    if header.length < blockSize then
      if header.isEmpty && stream.fault.isNone then
        stop (if notes.isEmpty then none else some .toldOfNothing)
      else stop (some (endFault stream .partialHeader))
    else if header.all (· == 0) then
      stop (if notes.isEmpty then none else some .toldOfNothing)
    else
      match checkSum header, entrySize notes header with
      | .error fault, _ => stop (some fault)
      | .ok (), .error fault => stop (some fault)
      | .ok (), .ok size =>
        if Nat.pow 2 64 ≤ paddedSize size then stop (some .tooLarge)
        else
          let after : ByteStream := ⟨stream.bytes.drop blockSize, stream.fault⟩
          let content := contentOf size after
          match note notes (kindOf header) content with
          | .error fault => stop (some fault)
          | .ok noted =>
            let (notes, found) :=
              match noted with
              | some told => (told, found)
              | none => ({}, ⟨entryPath notes header, content⟩ :: found)
            if (after.bytes.take (paddedSize size)).length < paddedSize size then
              ⟨found.reverse, some (endFault after .endInContent)⟩
            else
              listFrom fuel notes found ⟨after.bytes.drop (paddedSize size), after.fault⟩

/-- The entries of an archive. -/
def list (stream : ByteStream) : ArchiveListing :=
  listFrom (stream.bytes.length / blockSize + 1) {} [] stream

end Tar

end PluginHost
