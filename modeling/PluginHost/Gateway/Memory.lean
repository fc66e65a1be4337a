import PluginHost.Gateway.Router

/-!
# Memory for request bodies

The bytes of a body are collected in one piece of memory.  Room for the declared length is set
aside before the first chunk is read, and the piece is doubled when a chunk does not fit any more.
Sizes are words of 64 bits, and every piece of memory is smaller than half of what a word can count.
A request that would need more than that is not answered: its handling is broken off.  Smaller
pieces are taken to be there whenever they are asked for.
-/

namespace PluginHost

/-- The number of words, which is above every size that a word can hold. -/
def wordCount : Nat :=
  Nat.pow 2 64

/-- The greatest size that a piece of memory can have, in bytes. -/
def maxPieceSize : Nat :=
  Nat.pow 2 63 - 1

/-- What breaks the handling of a request off. -/
inductive MemoryFault where
  /-- More room is asked for than a piece of memory can have. -/
  | capacityOverflow
  /-- A sum of sizes is no word. -/
  | sumOverflow
deriving DecidableEq

/-- The wording of a fault. -/
def MemoryFault.message : MemoryFault → String
  | capacityOverflow => "capacity overflow"
  | sumOverflow => "attempt to add with overflow"

/-- The sum of two sizes, as a word. -/
def addSizes (first second : Nat) : Except MemoryFault Nat :=
  if first + second < wordCount then .ok (first + second) else .error .sumOverflow

/-- The size of a piece of memory that had another size and is to have a needed one at least. -/
def grownSize (size needed : Nat) : Nat :=
  if needed ≤ size then size else Nat.max (Nat.max (2 * size) needed) 8

theorem needed_le_grownSize (size needed : Nat) : needed ≤ grownSize size needed := by
  rw [grownSize]
  split
  · assumption
  · exact Nat.le_trans (Nat.le_max_right _ _) (Nat.le_max_left _ _)

/-- The bytes that have been read of a body, in one piece of memory with room for more of them. -/
structure BodyBuffer where
  bytes : List UInt8
  size : Nat
  holds : bytes.length ≤ size
  isPiece : size ≤ maxPieceSize

namespace BodyBuffer

/-- An empty buffer for which room is set aside. -/
def withRoom (size : Nat) : Except MemoryFault BodyBuffer :=
  if isPiece : size ≤ maxPieceSize then
    .ok ⟨[], size, Nat.zero_le size, isPiece⟩
  else
    .error .capacityOverflow

/-- The buffer with the bytes of a chunk after its own. -/
def extend (buffer : BodyBuffer) (chunk : List UInt8) : Except MemoryFault BodyBuffer :=
  let bytes := buffer.bytes ++ chunk
  let size := grownSize buffer.size bytes.length
  if isPiece : size ≤ maxPieceSize then
    .ok ⟨bytes, size, needed_le_grownSize buffer.size bytes.length, isPiece⟩
  else
    .error .capacityOverflow

end BodyBuffer

/-- Collects chunks in a buffer. -/
def collectChunks (limits : ServerLimits) (ending : BodyEnding) :
    BodyBuffer → List (List UInt8) → Except MemoryFault (Except HostError (List UInt8))
  | buffer, [] => .ok (ending.result limits buffer.bytes)
  | buffer, chunk :: rest =>
    match addSizes buffer.bytes.length chunk.length with
    | .error fault => .error fault
    | .ok size =>
      if limits.maxBodyBytes < size then
        .ok (.error (.payloadTooLarge limits.maxBodyBytes))
      else
        match buffer.extend chunk with
        | .error fault => .error fault
        | .ok grown => collectChunks limits ending grown rest

/-- The bytes of a body, read within the limits into memory. -/
def RequestBody.receive (limits : ServerLimits) (headers : HeaderFields) (body : RequestBody) :
    Except MemoryFault (Except HostError (List UInt8)) :=
  let collected :=
    match BodyBuffer.withRoom (reservedBytes limits headers) with
    | .error fault => .error fault
    | .ok buffer => collectChunks limits body.ending buffer body.chunks
  match headers.declaredLength? with
  | none => collected
  | some declared =>
    if limits.maxBodyBytes < declared then
      .ok (.error (.payloadTooLarge limits.maxBodyBytes))
    else
      collected

namespace Gateway

/-- Whether the body of a request is read. -/
def readsBody (gateway : Gateway) (request : GatewayRequest) : Bool :=
  request.method == "POST" &&
    match Endpoint.ofPath? request.path with
    | some .callTool => true
    | some .chatCompletions => gateway.provider.isSome
    | _ => false

/-- Handles a request, unless there is no memory that its body could be read into. -/
def handleInMemory (gateway : Gateway) (handles : Handles) (replies : ProviderReplies)
    (request : GatewayRequest) : Except MemoryFault Exchange :=
  let exchange := gateway.handle handles replies request
  if gateway.readsBody request then
    (request.body.receive gateway.limits request.headers).map fun _ => exchange
  else
    .ok exchange

end Gateway

end PluginHost
