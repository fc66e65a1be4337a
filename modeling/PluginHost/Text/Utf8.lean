/-!
# Byte streams as characters

A byte stream is read as UTF-8 into symbols: the characters it encodes, and the stray bytes
that belong to no character.  A text is a stream without stray bytes.
-/

namespace PluginHost.Text

/-- One symbol of a byte stream: a character, or none for a stray byte. -/
abbrev Symbol := Option Char

/-- The number of bytes of a symbol. -/
def Symbol.size : Symbol → Nat
  | some c => c.utf8Size
  | none => 1

/-- The number of bytes of a list of symbols. -/
def symbolsSize (symbols : List Symbol) : Nat :=
  symbols.foldl (fun total symbol => total + Symbol.size symbol) 0

/-- The symbols of a text. -/
def symbolsOf (text : String) : List Symbol :=
  text.toList.map some

/-- Whether a byte continues a multi-byte character. -/
def isContinuation (byte : UInt8) : Bool :=
  0x80 ≤ byte && byte ≤ 0xbf

/-- The character with a given code point that must take at least `least` and encode a
character proper. -/
def charOfCode? (least code : Nat) : Option Char :=
  if least ≤ code && code.isValidChar then some (Char.ofNat code) else none

/-- The low six bits of a continuation byte. -/
def continuationBits (byte : UInt8) : Nat :=
  byte.toNat % 64

/-- The first symbol of a nonempty stream and the number of bytes it takes. -/
def firstSymbol (byte : UInt8) (rest : List UInt8) : Symbol × Nat :=
  let code := byte.toNat
  if code < 0x80 then
    (some (Char.ofNat code), 1)
  else if 0xc0 ≤ code && code < 0xe0 then
    match rest with
    | b :: _ =>
      if isContinuation b then
        match charOfCode? 0x80 (code % 32 * 64 + continuationBits b) with
        | some c => (some c, 2)
        | none => (none, 1)
      else (none, 1)
    | _ => (none, 1)
  else if 0xe0 ≤ code && code < 0xf0 then
    match rest with
    | b :: c :: _ =>
      if isContinuation b && isContinuation c then
        match charOfCode? 0x800
            ((code % 16 * 64 + continuationBits b) * 64 + continuationBits c) with
        | some found => (some found, 3)
        | none => (none, 1)
      else (none, 1)
    | _ => (none, 1)
  else if 0xf0 ≤ code && code < 0xf8 then
    match rest with
    | b :: c :: d :: _ =>
      if isContinuation b && isContinuation c && isContinuation d then
        match charOfCode? 0x10000
            (((code % 8 * 64 + continuationBits b) * 64 + continuationBits c) * 64 +
              continuationBits d) with
        | some found => (some found, 4)
        | none => (none, 1)
      else (none, 1)
    | _ => (none, 1)
  else (none, 1)

/-- Decodes a stream onto the symbols read so far, skipping the bytes that the last symbol
still takes. -/
def decodeOnto : List UInt8 → Nat → List Symbol → List Symbol
  | [], _, read => read.reverse
  | _ :: rest, skip + 1, read => decodeOnto rest skip read
  | byte :: rest, 0, read =>
    match firstSymbol byte rest with
    | (symbol, size) => decodeOnto rest (size - 1) (symbol :: read)

/-- The symbols of a byte stream. -/
def decode (bytes : List UInt8) : List Symbol :=
  decodeOnto bytes 0 []

/-- Collects the characters of a stream onto those read so far, unless it has a stray byte. -/
def charsOnto? : List Symbol → List Char → Option (List Char)
  | [], read => some read.reverse
  | none :: _, _ => none
  | some c :: rest, read => charsOnto? rest (c :: read)

/-- The text that a byte stream encodes, if it has no stray byte. -/
def decodeText? (bytes : List UInt8) : Option String :=
  (charsOnto? (decode bytes) []).map String.ofList

/-- The text of a byte stream in which each stray byte shows as the replacement character. -/
def symbolsText (symbols : List Symbol) : String :=
  String.ofList (symbols.map fun symbol => symbol.getD '\ufffd')

/-- Whether a character that takes three or four bytes can begin with two given bytes. -/
def beginsCharacter (lead second : UInt8) : Bool :=
  isContinuation second && 0xe0 ≤ lead && lead < 0xf5 &&
    if lead == 0xe0 then 0xa0 ≤ second
    else if lead == 0xed then second < 0xa0
    else if lead == 0xf0 then 0x90 ≤ second
    else if lead == 0xf4 then second < 0x90
    else true

/-- The number of bytes that one replacement character stands for, at a byte with which no
character of the stream begins: the byte, and those after it that would go on with a
character. -/
def strayRun (lead : UInt8) : List UInt8 → Nat
  | [] => 1
  | second :: rest =>
    if beginsCharacter lead second then
      if 0xf0 ≤ lead && (rest.head?.map isContinuation).getD false then 3 else 2
    else 1

/-- Reads a stream onto the characters read so far, with a replacement character for every run
of stray bytes, skipping the bytes that the last character still takes. -/
def readableOnto : List UInt8 → Nat → List Char → List Char
  | [], _, read => read.reverse
  | _ :: rest, skip + 1, read => readableOnto rest skip read
  | byte :: rest, 0, read =>
    match firstSymbol byte rest with
    | (some c, size) => readableOnto rest (size - 1) (c :: read)
    | (none, _) => readableOnto rest (strayRun byte rest - 1) ('\ufffd' :: read)

/-- A byte stream as a text: what is no UTF-8 is replaced. -/
def readableText (bytes : List UInt8) : String :=
  String.ofList (readableOnto bytes 0 [])

/-- The bytes that encode a text. -/
def encode (text : String) : List UInt8 :=
  text.toList.flatMap String.utf8EncodeChar

end PluginHost.Text
