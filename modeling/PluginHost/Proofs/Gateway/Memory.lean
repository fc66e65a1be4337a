import PluginHost.Gateway.Memory
import PluginHost.Proofs.Gateway.Body
import PluginHost.Settings.Loading

/-!
# Bodies that there is memory for

Room for a body is set aside without regard to how much memory there is, up to the limit.  It can
be had for every head exactly if the limit is within the greatest size of a piece of memory.
With a greater limit a head that declares a length between the two breaks the handling of its
request off.  Where room can be had, every body is received that fits in it, or up to the limit in
the half of the greatest piece, which a buffer can always grow to.  The sum of what has been read
and of the next chunk is a word in any case.
-/

namespace PluginHost

/-- A body whose chunks are pieces of memory. -/
def RequestBody.InMemory (body : RequestBody) : Prop :=
  ∀ chunk ∈ body.chunks, chunk.length ≤ maxPieceSize

/-! ### Setting room aside -/

section Room

variable {limits : ServerLimits} {headers : HeaderFields} {length : Nat}

theorem reservedBytes_of_declares (declares : headers.declaredLength? = some length)
    (within : length ≤ limits.maxBodyBytes) : reservedBytes limits headers = length := by
  simp only [reservedBytes, declares, if_neg (Nat.not_lt.mpr within)]

/-- What is set aside is nothing, or a declared length within the limit. -/
theorem reservedBytes_cases (limits : ServerLimits) (headers : HeaderFields) :
    reservedBytes limits headers = 0 ∨
      headers.declaredLength? = some (reservedBytes limits headers) ∧
        reservedBytes limits headers ≤ limits.maxBodyBytes := by
  cases declares : headers.declaredLength? with
  | none => exact .inl (by simp only [reservedBytes, declares])
  | some length =>
      by_cases exceeds : limits.maxBodyBytes < length
      · exact .inl (by simp only [reservedBytes, declares, if_pos exceeds])
      · have within := Nat.le_of_not_lt exceeds
        rw [reservedBytes_of_declares declares within]
        exact .inr ⟨rfl, within⟩

theorem reservedBytes_le_iff :
    reservedBytes limits headers ≤ maxPieceSize ↔
      ∀ length, headers.declaredLength? = some length → length ≤ limits.maxBodyBytes →
        length ≤ maxPieceSize := by
  constructor
  · intro fits length declares within
    rwa [reservedBytes_of_declares declares within] at fits
  · intro fits
    rcases reservedBytes_cases limits headers with nothing | ⟨declares, within⟩
    · rw [nothing]
      exact Nat.zero_le maxPieceSize
    · exact fits _ declares within

/-- A head that declares the least length that no piece of memory has. -/
def leastOversized : HeaderFields :=
  [("content-length", "9223372036854775808")]

theorem declaredLength?_leastOversized :
    leastOversized.declaredLength? = some (maxPieceSize + 1) := by
  decide +kernel

theorem forall_reservedBytes_le_iff :
    (∀ headers, reservedBytes limits headers ≤ maxPieceSize) ↔
      limits.maxBodyBytes ≤ maxPieceSize := by
  constructor
  · intro fits
    refine Nat.le_of_not_lt fun exceeds => Nat.not_succ_le_self maxPieceSize ?_
    exact reservedBytes_le_iff.mp (fits leastOversized) _ declaredLength?_leastOversized exceeds
  · intro fits headers
    exact reservedBytes_le_iff.mpr fun _ _ within => Nat.le_trans within fits

end Room

/-! ### Growing -/

/-- The greatest size that every piece of memory can grow to: twice of less is a size as well. -/
def maxGrownSize : Nat :=
  Nat.pow 2 62

section Growing

variable {limit size needed total : Nat}

theorem grownSize_of_le (holds : needed ≤ size) : grownSize size needed = size :=
  if_pos holds

theorem size_le_grownSize (size needed : Nat) : size ≤ grownSize size needed := by
  rcases Nat.lt_or_ge size needed with grows | holds
  · exact Nat.le_trans (Nat.le_of_lt grows) (needed_le_grownSize size needed)
  · exact Nat.le_of_eq (grownSize_of_le holds).symm

theorem forall_grownSize_le_iff :
    (∀ size ≤ maxPieceSize, grownSize size needed ≤ maxPieceSize) ↔ needed ≤ maxGrownSize := by
  constructor
  · intro grows
    refine Nat.le_of_not_lt fun exceeds => ?_
    -- A piece of just this size has no room for what is needed, and its double is no piece.
    have grown := grows maxGrownSize (by decide)
    rw [grownSize, if_neg (Nat.not_le.mpr exceeds)] at grown
    have isPiece : 2 * maxGrownSize ≤ maxPieceSize := (Nat.max_le.mp (Nat.max_le.mp grown).1).1
    exact absurd isPiece (by decide)
  · intro within size isPiece
    have double : 2 * maxGrownSize = maxPieceSize + 1 := by decide
    rcases Nat.lt_or_ge size needed with grows | holds
    · rw [grownSize, if_neg (Nat.not_le.mpr grows)]
      exact Nat.max_le.mpr ⟨Nat.max_le.mpr ⟨by omega, by omega⟩, by decide⟩
    · rwa [grownSize_of_le holds]

/-- A piece of memory of some size is room for all bytes that there are within a limit: they fit in
it, or it can always grow as far. -/
def IsRoomFor (limit size total : Nat) : Prop :=
  total ≤ size ∨ Nat.min limit total ≤ maxGrownSize

theorem IsRoomFor.grownSize_le (ample : IsRoomFor limit size total) (isPiece : size ≤ maxPieceSize)
    (withinLimit : needed ≤ limit) (withinTotal : needed ≤ total) :
    grownSize size needed ≤ maxPieceSize := by
  rcases ample with holds | grows
  · rwa [grownSize_of_le (Nat.le_trans withinTotal holds)]
  · have within := Nat.le_trans (Nat.le_min.mpr ⟨withinLimit, withinTotal⟩) grows
    exact forall_grownSize_le_iff.mpr within size isPiece

theorem IsRoomFor.grown (ample : IsRoomFor limit size total) (needed : Nat) :
    IsRoomFor limit (grownSize size needed) total :=
  ample.imp_left fun holds => Nat.le_trans holds (size_le_grownSize size needed)

end Growing

/-! ### Collecting chunks -/

theorem BodyBuffer.length_le (buffer : BodyBuffer) : buffer.bytes.length ≤ maxPieceSize :=
  Nat.le_trans buffer.holds buffer.isPiece

/-- The sizes of two pieces of memory have a sum that is a word. -/
theorem addSizes_of_pieces {first second : Nat} (firstFits : first ≤ maxPieceSize)
    (secondFits : second ≤ maxPieceSize) : addSizes first second = .ok (first + second) := by
  have words : maxPieceSize + maxPieceSize < wordCount := by decide
  exact if_pos (Nat.lt_of_le_of_lt (Nat.add_le_add firstFits secondFits) words)

section Chunks

variable {limits : ServerLimits} {ending : BodyEnding} {chunks : List (List UInt8)}

theorem collectChunks_ne_sumOverflow (inMemory : ∀ chunk ∈ chunks, chunk.length ≤ maxPieceSize)
    (buffer : BodyBuffer) : collectChunks limits ending buffer chunks ≠ .error .sumOverflow := by
  -- The buffer is a piece of memory at every step.
  induction chunks generalizing buffer with
  | nil => exact nofun
  | cons chunk rest ih =>
      have sum := addSizes_of_pieces buffer.length_le (inMemory chunk List.mem_cons_self)
      simp only [collectChunks, sum]
      by_cases exceeds : limits.maxBodyBytes < buffer.bytes.length + chunk.length
      · simp only [if_pos exceeds]
        exact nofun
      · rw [if_neg exceeds, BodyBuffer.extend]
        by_cases isPiece : grownSize buffer.size (buffer.bytes ++ chunk).length ≤ maxPieceSize
        · simp only [dif_pos isPiece]
          exact ih (fun other member => inMemory other (List.mem_cons_of_mem chunk member)) _
        · simp only [dif_neg isPiece]
          exact nofun

theorem collectChunks_eq (inMemory : ∀ chunk ∈ chunks, chunk.length ≤ maxPieceSize)
    (buffer : BodyBuffer)
    (ample : IsRoomFor limits.maxBodyBytes buffer.size (buffer.bytes ++ chunks.flatten).length) :
    collectChunks limits ending buffer chunks =
      .ok (readChunks limits ending buffer.bytes chunks) := by
  induction chunks generalizing buffer with
  | nil => rfl
  | cons chunk rest ih =>
      have sum := addSizes_of_pieces buffer.length_le (inMemory chunk List.mem_cons_self)
      simp only [collectChunks, sum, readChunks]
      by_cases exceeds : limits.maxBodyBytes < buffer.bytes.length + chunk.length
      · simp only [if_pos exceeds]
      · rw [List.flatten_cons, ← List.append_assoc] at ample
        have withinLimit : (buffer.bytes ++ chunk).length ≤ limits.maxBodyBytes := by
          rw [List.length_append]
          exact Nat.le_of_not_lt exceeds
        have withinTotal : (buffer.bytes ++ chunk).length ≤
            (buffer.bytes ++ chunk ++ rest.flatten).length :=
          (List.prefix_append _ _).length_le
        have isPiece := ample.grownSize_le buffer.isPiece withinLimit withinTotal
        simp only [if_neg exceeds, BodyBuffer.extend, dif_pos isPiece]
        exact ih (fun other member => inMemory other (List.mem_cons_of_mem chunk member)) _
          (ample.grown _)

end Chunks

/-! ### Receiving bodies -/

namespace RequestBody

variable {limits : ServerLimits} {headers : HeaderFields} {body : RequestBody}

theorem receive_of_noRoom (exceeds : maxPieceSize < reservedBytes limits headers) :
    body.receive limits headers = .error .capacityOverflow := by
  rcases reservedBytes_cases limits headers with nothing | ⟨declares, within⟩
  · rw [nothing] at exceeds
    cases exceeds
  · simp only [receive, declares, if_neg (Nat.not_lt.mpr within), BodyBuffer.withRoom,
      dif_neg (Nat.not_le.mpr exceeds)]

/-- Where room can be had, a body is refused for its declared length or its chunks are collected. -/
theorem receive_of_room (room : reservedBytes limits headers ≤ maxPieceSize) :
    (¬ headers.DeclaresWithin limits.maxBodyBytes ∧
      body.receive limits headers = .ok (body.read limits headers)) ∨
    body.receive limits headers =
        collectChunks limits body.ending
          ⟨[], reservedBytes limits headers, Nat.zero_le _, room⟩ body.chunks ∧
      body.read limits headers = readChunks limits body.ending [] body.chunks := by
  cases declares : headers.declaredLength? with
  | none =>
      exact .inr ⟨by simp only [receive, declares, BodyBuffer.withRoom, dif_pos room],
        by simp only [read, declares]⟩
  | some length =>
      by_cases exceeds : limits.maxBodyBytes < length
      · refine .inl ⟨fun within => Nat.not_le.mpr exceeds (within length declares), ?_⟩
        simp only [receive, read, declares, if_pos exceeds]
      · exact .inr
          ⟨by simp only [receive, declares, if_neg exceeds, BodyBuffer.withRoom, dif_pos room],
            by simp only [read, declares, if_neg exceeds]⟩

theorem receive_eq_read (room : reservedBytes limits headers ≤ maxPieceSize)
    (inMemory : body.InMemory)
    (ample : IsRoomFor limits.maxBodyBytes (reservedBytes limits headers) body.bytes.length) :
    body.receive limits headers = .ok (body.read limits headers) := by
  rcases receive_of_room room with ⟨-, received⟩ | ⟨collects, reads⟩
  · exact received
  · rw [collects, reads]
    exact collectChunks_eq inMemory _ ample

theorem receive_ne_sumOverflow (inMemory : body.InMemory) :
    body.receive limits headers ≠ .error .sumOverflow := by
  rcases Nat.lt_or_ge maxPieceSize (reservedBytes limits headers) with exceeds | room
  · rw [receive_of_noRoom exceeds]
    exact nofun
  · rcases receive_of_room room with ⟨-, received⟩ | ⟨collects, -⟩
    · rw [received]
      exact nofun
    · rw [collects]
      exact collectChunks_ne_sumOverflow inMemory _

end RequestBody

/-! ### Handling requests -/

section Requests

variable {gateway : Gateway} {handles : Handles} {replies : ProviderReplies}
  {request : GatewayRequest}

theorem Layer.around_permissive_withBody {service : Service} {body : RequestBody}
    (same : service { request with body := body } = service request) :
    Layer.around .permissive service { request with body := body } =
      Layer.around .permissive service request := by
  simp only [around, namingOrigin, withoutContent, permissive, same]
  rfl

/-- An endpoint that takes a request without reading its body serves it alike with any body. -/
theorem Gateway.serve_withBody {endpoint : Endpoint}
    (found : Endpoint.ofPath? request.path = some endpoint)
    (takes : endpoint.takes request.method = true) (unread : gateway.readsBody request = false)
    (body : RequestBody) :
    gateway.serve handles replies { request with body := body } endpoint =
      gateway.serve handles replies request endpoint := by
  cases endpoint with
  | health => rfl
  | tools => rfl
  | models => rfl
  | callTool =>
      have posted : (request.method == "POST") = true := takes
      simp [readsBody, found, posted] at unread
  | chatCompletions =>
      have posted : (request.method == "POST") = true := takes
      simp only [readsBody, found, posted, Bool.true_and, Option.isSome_eq_false_iff,
        Option.isNone_iff_eq_none] at unread
      simp only [serve, serveChat, unread]

/-- A body that is not read makes no difference. -/
theorem Gateway.handle_withBody (unread : gateway.readsBody request = false)
    (body : RequestBody) :
    gateway.handle handles replies { request with body := body } =
      gateway.handle handles replies request := by
  have path : GatewayRequest.path { request with body := body } = request.path := rfl
  have constant (exchange : Exchange) :
      Layer.around .permissive (fun _ => exchange) { request with body := body } =
        Layer.around .permissive (fun _ => exchange) request :=
    Layer.around_permissive_withBody rfl
  rw [handle, handle, route, route, path]
  cases found : Endpoint.ofPath? request.path with
  | none => exact constant _
  | some endpoint =>
      simp only [endpointService?]
      by_cases takes : endpoint.takes request.method = true
      · simp only [if_pos takes]
        refine Layer.around_permissive_withBody ?_
        simp only [serve_withBody found takes unread]
      · simp only [if_neg takes]
        by_cases answers : (endpoint.answersOptions && request.method == "OPTIONS") = true
        · simp only [if_pos answers, constant]
        · simp only [if_neg answers, constant]

/-- A request is handled if there is memory for its body. -/
theorem Gateway.handleInMemory_of_room
    (room : reservedBytes gateway.limits request.headers ≤ maxPieceSize)
    (inMemory : request.body.InMemory)
    (ample : IsRoomFor gateway.limits.maxBodyBytes (reservedBytes gateway.limits request.headers)
      request.body.bytes.length) :
    gateway.handleInMemory handles replies request =
      .ok (gateway.handle handles replies request) := by
  rw [handleInMemory, RequestBody.receive_eq_read room inMemory ample]
  exact ite_self _

/-- It is broken off if its body is to be read and no room can be set aside. -/
theorem Gateway.handleInMemory_of_noRoom (reads : gateway.readsBody request = true)
    (exceeds : maxPieceSize < reservedBytes gateway.limits request.headers) :
    gateway.handleInMemory handles replies request = .error .capacityOverflow := by
  rw [handleInMemory, RequestBody.receive_of_noRoom exceeds, if_pos reads]
  rfl

end Requests

/-- What becomes of bodies that are read into memory within limits. -/
structure ReceivesInMemory (limits : ServerLimits) : Prop where
  /-- Room can be set aside exactly if the head declares no length that the limit allows and no
  piece of memory has. -/
  room : ∀ headers, reservedBytes limits headers ≤ maxPieceSize ↔
    ∀ length, headers.declaredLength? = some length → length ≤ limits.maxBodyBytes →
      length ≤ maxPieceSize
  /-- That it can be for every head means that the limit is the size of a piece of memory. -/
  everyHead : (∀ headers, reservedBytes limits headers ≤ maxPieceSize) ↔
    limits.maxBodyBytes ≤ maxPieceSize
  /-- Where there is no room, nothing is answered. -/
  brokenOff : ∀ headers, maxPieceSize < reservedBytes limits headers → ∀ body : RequestBody,
    body.receive limits headers = .error .capacityOverflow
  /-- Where there is, and it is room for all that comes, the outcome is the bytes of the body or the
  error of what keeps it from being read. -/
  answered : ∀ headers, reservedBytes limits headers ≤ maxPieceSize → ∀ body : RequestBody,
    body.InMemory → IsRoomFor limits.maxBodyBytes (reservedBytes limits headers) body.bytes.length →
      ∃ outcome, body.receive limits headers = .ok outcome ∧
        (∀ bytes, outcome = .ok bytes ↔ ReadableBody limits headers body ∧ body.bytes = bytes) ∧
          ∀ error, outcome = .error error ↔ BodyRefusal limits headers body error
  /-- No sum of sizes is too large for a word, whatever the limit and the head. -/
  sums : ∀ headers, ∀ body : RequestBody, body.InMemory →
    body.receive limits headers ≠ .error .sumOverflow

/-- Room for every declared length can be set aside exactly within limits that are sizes of pieces
of memory, and where it can be, the body or the error of its reading is the outcome. -/
theorem receivesInMemory (limits : ServerLimits) : ReceivesInMemory limits where
  room _ := reservedBytes_le_iff
  everyHead := forall_reservedBytes_le_iff
  brokenOff _ exceeds _ := RequestBody.receive_of_noRoom exceeds
  answered _ room _ inMemory ample :=
    ⟨_, RequestBody.receive_eq_read room inMemory ample, fun _ => RequestBody.read_eq_ok_iff,
      fun _ => RequestBody.read_eq_error_iff⟩
  sums _ _ inMemory := RequestBody.receive_ne_sumOverflow inMemory

/-- Surroundings that state a limit, and nothing else. -/
def limitAlone (limit : String) : Surroundings :=
  ⟨⟨.directory [], "/"⟩, [("TOOLGATE_SERVER_MAX_BODY_BYTES", limit)]⟩

/-- The least limit that is no size of a piece of memory is accepted, and a head that declares just
this length breaks the handling of its request off, whatever its body is. -/
theorem brokenOff_leastOversized :
    ∃ settings, HostSettings.ofSurroundings (limitAlone "9223372036854775808") = .ok settings ∧
      settings.violations = [] ∧
      maxPieceSize < reservedBytes settings.server.limits leastOversized ∧
      ∀ body : RequestBody, body.receive settings.server.limits leastOversized =
        .error .capacityOverflow := by
  have stated : (HostSettings.ofSurroundings (limitAlone "9223372036854775808")).toOption.map
      (fun settings => (settings.server.maxBodyBytes, settings.violations)) =
        some (maxPieceSize + 1, []) := by decide +kernel
  cases loaded : HostSettings.ofSurroundings (limitAlone "9223372036854775808") with
  | error _ =>
      rw [loaded] at stated
      cases stated
  | ok settings =>
      rw [loaded] at stated
      obtain ⟨limit, accepted⟩ := Prod.mk.inj (Option.some.inj stated)
      have reserved : reservedBytes settings.server.limits leastOversized = maxPieceSize + 1 :=
        reservedBytes_of_declares declaredLength?_leastOversized (Nat.le_of_eq limit.symm)
      have exceeds : maxPieceSize < reservedBytes settings.server.limits leastOversized := by
        rw [reserved]
        exact Nat.lt_succ_self maxPieceSize
      exact ⟨settings, rfl, accepted, exceeds, fun _ => RequestBody.receive_of_noRoom exceeds⟩

end PluginHost
