import PluginHost.Archive.Deflate
import PluginHost.Text.Utf8

/-!
# Compressed streams

A compressed stream has a header, deflated data and a footer with a checksum.  What is read
from it is a stream of bytes that may end in a fault; the faults of the data show when the
reader comes to them.
-/

namespace PluginHost

/-- Why a stream of bytes ends early. -/
inductive StreamFault where
  /-- The header or the footer is cut off. -/
  | endOfFile
  | badHeader
  | longField
  | badChecksum
  | incomplete
  | corrupt
deriving DecidableEq

/-- The wording of a fault. -/
def StreamFault.message : StreamFault → String
  | endOfFile => "unexpected end of file"
  | badHeader => "invalid gzip header"
  | longField => "gzip header field too long"
  | badChecksum => "corrupt gzip stream does not have a matching checksum"
  | incomplete => "incomplete deflate stream"
  | corrupt => "corrupt deflate stream"

/-- Bytes that can be read, and the fault that is met after them, if there is one. -/
structure ByteStream where
  bytes : List UInt8
  fault : Option StreamFault

namespace Gzip

/-- The remainder of a byte-wise checksum after a byte. -/
def checksumStep (sum : UInt32) (byte : UInt8) : UInt32 :=
  (List.range 8).foldl
    (fun sum _ => if sum &&& 1 == 1 then (sum >>> 1) ^^^ 0xedb88320 else sum >>> 1)
    (sum ^^^ byte.toUInt32)

/-- The cyclic redundancy check of bytes. -/
def checksum (bytes : List UInt8) : UInt32 :=
  bytes.foldl checksumStep 0xffffffff ^^^ 0xffffffff

/-- The number that bytes spell, the lowest first. -/
def numberOf : List UInt8 → Nat
  | [] => 0
  | byte :: rest => byte.toNat + 256 * numberOf rest

/-- The first bytes of a number, and the others. -/
def takeBytes (count : Nat) (bytes : List UInt8) :
    Except StreamFault (List UInt8 × List UInt8) :=
  let taken := bytes.take count
  if taken.length == count then .ok (taken, bytes.drop count) else .error .endOfFile

/-- Whether the flag of a weight is set. -/
def hasFlag (flags : UInt8) (weight : Nat) : Bool :=
  flags.toNat / weight % 2 == 1

/-- The greatest size of a name or a comment in a header. -/
def maxFieldSize : Nat := 65535

/-- The bytes after a field that ends with a zero byte. -/
def skipField (bytes : List UInt8) : Except StreamFault (List UInt8) :=
  let field := bytes.takeWhile (· != 0)
  if maxFieldSize < field.length then .error .longField
  else
    match bytes.drop field.length with
    | _ :: rest => .ok rest
    | [] => .error .endOfFile

/-- The bytes after a field that is there only under a flag. -/
def skipFieldIf (present : Bool) (bytes : List UInt8) : Except StreamFault (List UInt8) :=
  if present then skipField bytes else .ok bytes

/-- The bytes after a field that starts with its length, if it is there. -/
def skipSizedIf (present : Bool) (bytes : List UInt8) : Except StreamFault (List UInt8) := do
  if present then
    let (size, rest) ← takeBytes 2 bytes
    let (_, rest) ← takeBytes (numberOf size) rest
    return rest
  else
    return bytes

/-- The bytes after the checksum of the header, if it is there; it must be right. -/
def skipHeaderChecksumIf (present : Bool) (whole bytes : List UInt8) :
    Except StreamFault (List UInt8) := do
  if present then
    let (stored, rest) ← takeBytes 2 bytes
    let header := whole.take (whole.length - bytes.length)
    if numberOf stored == (checksum header).toNat % 65536 then return rest
    else .error .badChecksum
  else
    return bytes

/-- The bytes after the header. -/
def skipHeader (bytes : List UInt8) : Except StreamFault (List UInt8) := do
  let (start, rest) ← takeBytes 10 bytes
  match start with
  | 0x1f :: 0x8b :: 8 :: flags :: _ =>
    if flags.toNat / 32 != 0 then .error .badHeader
    else
      let rest ← skipSizedIf (hasFlag flags 4) rest
      let rest ← skipFieldIf (hasFlag flags 8) rest
      let rest ← skipFieldIf (hasFlag flags 16) rest
      skipHeaderChecksumIf (hasFlag flags 2) bytes rest
  | _ => .error .badHeader

/-- The fault of a footer, which holds the checksum and the size of the data. -/
def footerFault? (data footer : List UInt8) : Option StreamFault :=
  match takeBytes 8 footer with
  | .error fault => some fault
  | .ok (stored, _) =>
    if numberOf (stored.take 4) == (checksum data).toNat &&
        numberOf (stored.drop 4) == data.length % Nat.pow 2 32 then
      none
    else
      some .badChecksum

/-- The size of the pieces in which data is inflated; of a piece that turns out to be corrupt
nothing is read. -/
def pieceSize : Nat := 32768

/-- The stream that compressed bytes contain. -/
def read (bytes : List UInt8) : ByteStream :=
  match skipHeader bytes with
  | .error fault => ⟨[], some fault⟩
  | .ok rest =>
    match Deflate.inflate rest with
    | (output, .error .incomplete) => ⟨output.toList, some .incomplete⟩
    | (output, .error .corrupt) =>
      ⟨output.toList.take (output.size / pieceSize * pieceSize), some .corrupt⟩
    | (output, .ok bits) =>
      let data := output.toList
      ⟨data, footerFault? data (rest.drop (rest.length - bits.length / 8))⟩

end Gzip

end PluginHost
