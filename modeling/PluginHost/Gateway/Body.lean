import PluginHost.Error
import PluginHost.Gateway.Headers
import PluginHost.Json.Record
import PluginHost.Settings.Basic
import PluginHost.Text.Utf8

/-!
# Reading request bodies

A body comes in chunks and then ends, breaks off or stalls.  It is read up to a greatest size
and within a time: a declared length above the size is refused before anything is read, and a
body that grows above the size is refused at the chunk that does it, whatever would follow.
-/

namespace PluginHost

open Text

/-- How the chunks of a body are followed. -/
inductive BodyEnding where
  /-- The body is complete. -/
  | complete
  /-- Receiving failed. -/
  | broken (message : String)
  /-- Nothing more comes, and the end does not come either. -/
  | stalled
deriving DecidableEq

/-- A request body on its way. -/
structure RequestBody where
  chunks : List (List UInt8)
  ending : BodyEnding
deriving DecidableEq

namespace RequestBody

/-- A body without chunks. -/
def empty : RequestBody :=
  ⟨[], .complete⟩

/-- All bytes of the body that come. -/
def bytes (body : RequestBody) : List UInt8 :=
  body.chunks.flatten

end RequestBody

namespace BodyEnding

/-- What reading comes to when the chunks have been taken. -/
def result (limits : ServerLimits) (read : List UInt8) :
    BodyEnding → Except HostError (List UInt8)
  | complete => .ok read
  | broken message => .error (.invalidArgument s!"failed to read request body: {message}")
  | stalled => .error (.requestTimeout limits.bodyReadTimeout)

end BodyEnding

/-- Takes chunks onto the bytes read so far. -/
def readChunks (limits : ServerLimits) (ending : BodyEnding) :
    List UInt8 → List (List UInt8) → Except HostError (List UInt8)
  | read, [] => ending.result limits read
  | read, chunk :: rest =>
    if limits.maxBodyBytes < read.length + chunk.length then
      .error (.payloadTooLarge limits.maxBodyBytes)
    else
      readChunks limits ending (read ++ chunk) rest

/-- The bytes of a body, read within the limits. -/
def RequestBody.read (limits : ServerLimits) (headers : HeaderFields) (body : RequestBody) :
    Except HostError (List UInt8) :=
  match headers.declaredLength? with
  | none => readChunks limits body.ending [] body.chunks
  | some declared =>
    if limits.maxBodyBytes < declared then
      .error (.payloadTooLarge limits.maxBodyBytes)
    else
      readChunks limits body.ending [] body.chunks

/-- The bytes that are set aside for a body before its first chunk is read: its declared
length, if that is within the limit. -/
def reservedBytes (limits : ServerLimits) (headers : HeaderFields) : Nat :=
  match headers.declaredLength? with
  | none => 0
  | some declared => if limits.maxBodyBytes < declared then 0 else declared

/-- The error of a body that spells no value that is asked for. -/
def jsonBodyError (stream : List Symbol) (fault : JsonFault) : HostError :=
  .invalidArgument ("invalid JSON body: " ++ fault.message stream)

/-- What a reader makes of a body's bytes. -/
def parseBody {α : Type} (reader : List Symbol → Except JsonFault α) (bytes : List UInt8) :
    Except HostError α :=
  let stream := decode bytes
  (reader stream).mapError (jsonBodyError stream)

/-- What a reader makes of a body that is read within the limits. -/
def RequestBody.readJson {α : Type} (reader : List Symbol → Except JsonFault α)
    (limits : ServerLimits) (headers : HeaderFields) (body : RequestBody) :
    Except HostError α :=
  match body.read limits headers with
  | .error error => .error error
  | .ok bytes => parseBody reader bytes

end PluginHost
