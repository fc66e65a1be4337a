/-!
# Inflating deflated data

Deflated data is a sequence of bits, the lowest bit of each byte first.  It consists of blocks:
stored bytes, or symbols in prefix codes that stand for bytes and for copies of earlier output.
What was inflated before a fault is kept.
-/

namespace PluginHost

/-- Why inflating stops before the end of the data. -/
inductive DeflateFault where
  /-- The bits ran out. -/
  | incomplete
  /-- The bits mean nothing. -/
  | corrupt
deriving DecidableEq

namespace Deflate

/-! ### Bits -/

/-- The bits of bytes, the lowest bit of each byte first. -/
def bitsOf (bytes : List UInt8) : List Bool :=
  bytes.flatMap fun byte => (List.range 8).map byte.toNat.testBit

/-- The number in the first bits, the lowest first, and the other bits. -/
def takeNumber : Nat → List Bool → Except DeflateFault (Nat × List Bool)
  | 0, bits => .ok (0, bits)
  | _ + 1, [] => .error .incomplete
  | size + 1, bit :: bits =>
    (takeNumber size bits).map fun (value, rest) => (2 * value + bit.toNat, rest)

/-- The bits from the next byte on. -/
def alignToByte (bits : List Bool) : List Bool :=
  bits.drop (bits.length % 8)

/-! ### Prefix codes -/

/-- A prefix code: the number of code words of each length from one on, and the symbols in
the order of their code words. -/
structure PrefixCode where
  counts : List Nat
  symbols : Array Nat

/-- The greatest length of a code word. -/
def maxCodeLength : Nat := 15

/-- The number of code words that are left over, if there are not too few of them. -/
def leftOver? (counts : List Nat) : Option Nat :=
  counts.foldlM (fun left count => if count ≤ 2 * left then some (2 * left - count) else none) 1

/-- The positions of a length in a list of lengths. -/
def positions (size : Nat) (lengths : List Nat) : List Nat :=
  lengths.zipIdx.filterMap fun (found, symbol) => if found == size then some symbol else none

/-- The prefix code in which each symbol has a code word of a given length, and none if the
length is zero.  All code words must be used, unless there is at most one symbol. -/
def PrefixCode.ofLengths? (lengths : List Nat) : Option PrefixCode :=
  let sizes := (List.range maxCodeLength).map (· + 1)
  let byLength := sizes.map fun size => positions size lengths
  let counts := byLength.map List.length
  match leftOver? counts with
  | none => none
  | some left =>
    if 0 < left && 1 < counts.foldl (· + ·) 0 then none
    else some ⟨counts, byLength.flatten.toArray⟩

/-- The place of the first code word among the symbols, and the other bits.  `code` is what
the bits so far spell, `first` the first code word of the present length, and `index` the
number of shorter ones. -/
def decodeFrom : List Nat → Nat → Nat → Nat → List Bool → Except DeflateFault (Nat × List Bool)
  | [], _, _, _, _ => .error .corrupt
  | _ :: _, _, _, _, [] => .error .incomplete
  | count :: counts, code, first, index, bit :: bits =>
    let code := code + bit.toNat
    if code < first + count then .ok (index + (code - first), bits)
    else decodeFrom counts (2 * code) (2 * (first + count)) (index + count) bits

/-- The first symbol and the other bits. -/
def PrefixCode.decode (table : PrefixCode) (bits : List Bool) :
    Except DeflateFault (Nat × List Bool) :=
  match decodeFrom table.counts 0 0 0 bits with
  | .error fault => .error fault
  | .ok (place, rest) =>
    match table.symbols[place]? with
    | some symbol => .ok (symbol, rest)
    | none => .error .corrupt

/-! ### Blocks -/

/-- The least length and the number of further bits of each symbol for a length. -/
def lengthTable : List (Nat × Nat) :=
  [(3, 0), (4, 0), (5, 0), (6, 0), (7, 0), (8, 0), (9, 0), (10, 0), (11, 1), (13, 1), (15, 1),
   (17, 1), (19, 2), (23, 2), (27, 2), (31, 2), (35, 3), (43, 3), (51, 3), (59, 3), (67, 4),
   (83, 4), (99, 4), (115, 4), (131, 5), (163, 5), (195, 5), (227, 5), (258, 0)]

/-- The least distance and the number of further bits of each symbol for a distance. -/
def distanceTable : List (Nat × Nat) :=
  [(1, 0), (2, 0), (3, 0), (4, 0), (5, 1), (7, 1), (9, 2), (13, 2), (17, 3), (25, 3), (33, 4),
   (49, 4), (65, 5), (97, 5), (129, 6), (193, 6), (257, 7), (385, 7), (513, 8), (769, 8),
   (1025, 9), (1537, 9), (2049, 10), (3073, 10), (4097, 11), (6145, 11), (8193, 12),
   (12289, 12), (16385, 13), (24577, 13)]

/-- The number that an entry of a table and the next bits make. -/
def takeExtended (table : List (Nat × Nat)) (symbol : Nat) (bits : List Bool) :
    Except DeflateFault (Nat × List Bool) :=
  match table[symbol]? with
  | none => .error .corrupt
  | some (least, size) =>
    (takeNumber size bits).map fun (extra, rest) => (least + extra, rest)

/-- Appends a copy of output from a distance back. -/
def copyBack : Nat → Nat → Array UInt8 → Array UInt8
  | 0, _, output => output
  | count + 1, distance, output =>
    copyBack count distance (output.push ((output[output.size - distance]?).getD 0))

/-- The length and the distance of a copy, after the symbol for its length. -/
def takeCopy (distances : PrefixCode) (symbol : Nat) (bits : List Bool) :
    Except DeflateFault ((Nat × Nat) × List Bool) :=
  match takeExtended lengthTable (symbol - 257) bits with
  | .error fault => .error fault
  | .ok (count, rest) =>
    match distances.decode rest with
    | .error fault => .error fault
    | .ok (place, rest) =>
      (takeExtended distanceTable place rest).map fun (distance, rest) =>
        ((count, distance), rest)

/-- What inflating gives: the output, and the bits after it or a fault. -/
abbrev Result := Array UInt8 × Except DeflateFault (List Bool)

/-- Inflates the symbols of a block in a number of steps. -/
def inflateSymbols (literals distances : PrefixCode) : Nat → List Bool → Array UInt8 → Result
  | 0, _, output => (output, .error .incomplete)
  | fuel + 1, bits, output =>
    match literals.decode bits with
    | .error fault => (output, .error fault)
    | .ok (symbol, rest) =>
      if symbol < 256 then
        inflateSymbols literals distances fuel rest (output.push (UInt8.ofNat symbol))
      else if symbol == 256 then (output, .ok rest)
      else
        match takeCopy distances symbol rest with
        | .error fault => (output, .error fault)
        | .ok ((count, distance), rest) =>
          if output.size < distance then (output, .error .corrupt)
          else inflateSymbols literals distances fuel rest (copyBack count distance output)

/-- Appends stored bytes. -/
def inflateStored : Nat → List Bool → Array UInt8 → Result
  | 0, bits, output => (output, .ok bits)
  | count + 1, bits, output =>
    match takeNumber 8 bits with
    | .error fault => (output, .error fault)
    | .ok (byte, rest) => inflateStored count rest (output.push (UInt8.ofNat byte))

/-- Inflates a stored block: its length, the complement of it, and its bytes. -/
def storedBlock (bits : List Bool) (output : Array UInt8) : Result :=
  match takeNumber 16 (alignToByte bits) with
  | .error fault => (output, .error fault)
  | .ok (size, rest) =>
    match takeNumber 16 rest with
    | .error fault => (output, .error fault)
    | .ok (complement, rest) =>
      if size + complement == 65535 then inflateStored size rest output
      else (output, .error .corrupt)

/-- The lengths of the code words of the fixed codes. -/
def fixedLengths : List Nat :=
  List.replicate 144 8 ++ List.replicate 112 9 ++ List.replicate 24 7 ++ List.replicate 8 8

/-- The order in which the lengths of the code for lengths are listed. -/
def lengthOrder : List Nat :=
  [16, 17, 18, 0, 8, 7, 9, 6, 10, 5, 11, 4, 12, 3, 13, 2, 14, 1, 15]

/-- Reads a number of lengths of three bits. -/
def takeShortLengths : Nat → List Bool → Except DeflateFault (List Nat × List Bool)
  | 0, bits => .ok ([], bits)
  | count + 1, bits =>
    match takeNumber 3 bits with
    | .error fault => .error fault
    | .ok (size, rest) =>
      (takeShortLengths count rest).map fun (sizes, rest) => (size :: sizes, rest)

/-- Reads a run of equal lengths, whose number has a least value and further bits. -/
def takeRun (size least extra : Nat) (bits : List Bool) :
    Except DeflateFault (List Nat × List Bool) :=
  (takeNumber extra bits).map fun (count, rest) => (List.replicate (least + count) size, rest)

/-- Reads lengths up to a number, onto those read so far, newest first. -/
def takeLengths (table : PrefixCode) (count : Nat) :
    Nat → List Nat → List Bool → Except DeflateFault (List Nat × List Bool)
  | 0, _, _ => .error .corrupt
  | fuel + 1, read, bits =>
    if count < read.length then .error .corrupt
    else if count == read.length then .ok (read.reverse, bits)
    else
      match table.decode bits with
      | .error fault => .error fault
      | .ok (symbol, rest) =>
        let run :=
          if symbol < 16 then .ok ([symbol], rest)
          else if symbol == 17 then takeRun 0 3 3 rest
          else if symbol == 18 then takeRun 0 11 7 rest
          else
            match read with
            | [] => .error .corrupt
            | size :: _ => takeRun size 3 2 rest
        match run with
        | .error fault => .error fault
        | .ok (sizes, rest) => takeLengths table count fuel (sizes ++ read) rest

/-- A code from the lengths of its code words. -/
def codeOf (lengths : List Nat) : Except DeflateFault PrefixCode :=
  match PrefixCode.ofLengths? lengths with
  | some table => .ok table
  | none => .error .corrupt

/-- Reads the codes of a block that states its own: for bytes and lengths, and for
distances. -/
def takeCodes (bits : List Bool) :
    Except DeflateFault ((PrefixCode × PrefixCode) × List Bool) := do
  let (literalCount, bits) ← takeNumber 5 bits
  let (distanceCount, bits) ← takeNumber 5 bits
  let (lengthCount, bits) ← takeNumber 4 bits
  let (sizes, bits) ← takeShortLengths (lengthCount + 4) bits
  let listed := lengthOrder.zip sizes
  let lengths := (List.range 19).map fun symbol =>
    ((listed.find? fun entry => entry.1 == symbol).map Prod.snd).getD 0
  let table ← codeOf lengths
  let literals := literalCount + 257
  let total := literals + (distanceCount + 1)
  if 286 < literals || 30 < distanceCount + 1 then .error .corrupt
  let (lengths, bits) ← takeLengths table total (total + 1) [] bits
  let literalCode ← codeOf (lengths.take literals)
  let distanceCode ← codeOf (lengths.drop literals)
  .ok ((literalCode, distanceCode), bits)

/-- Inflates a block of symbols with the codes that are read first. -/
def codedBlock (codes : Except DeflateFault ((PrefixCode × PrefixCode) × List Bool))
    (output : Array UInt8) : Result :=
  match codes with
  | .error fault => (output, .error fault)
  | .ok ((literals, distances), rest) =>
    inflateSymbols literals distances (rest.length + 1) rest output

/-- The fixed codes. -/
def fixedCodes (bits : List Bool) :
    Except DeflateFault ((PrefixCode × PrefixCode) × List Bool) := do
  let literals ← codeOf fixedLengths
  let distances ← codeOf (List.replicate 32 5)
  .ok ((literals, distances), bits)

/-- Inflates a block of a kind. -/
def block (kind : Nat) (bits : List Bool) (output : Array UInt8) : Result :=
  if kind == 0 then storedBlock bits output
  else if kind == 1 then codedBlock (fixedCodes bits) output
  else if kind == 2 then codedBlock (takeCodes bits) output
  else (output, .error .corrupt)

/-- Inflates blocks up to the one that is marked as the last. -/
def inflateBlocks : Nat → List Bool → Array UInt8 → Result
  | 0, _, output => (output, .error .incomplete)
  | fuel + 1, bits, output =>
    match takeNumber 1 bits with
    | .error fault => (output, .error fault)
    | .ok (last, rest) =>
      match takeNumber 2 rest with
      | .error fault => (output, .error fault)
      | .ok (kind, rest) =>
        match block kind rest output with
        | (output, .error fault) => (output, .error fault)
        | (output, .ok rest) =>
          if last == 1 then (output, .ok rest) else inflateBlocks fuel rest output

/-- Inflates bytes. -/
def inflate (bytes : List UInt8) : Result :=
  inflateBlocks (8 * bytes.length + 1) (bitsOf bytes) #[]

end Deflate

end PluginHost
