import PluginHost.Gateway.Body

/-!
# What becomes of a body

How a body is cut into chunks makes no difference to what is read of it.  A body is read if the
head declares no length above the limit, the bytes that come are within the limit and the body
is complete; otherwise the first of these that fails decides the error.
-/

namespace PluginHost

open Text

namespace HeaderFields

/-- A head that declares no length above a limit. -/
def DeclaresWithin (limit : Nat) (headers : HeaderFields) : Prop :=
  ∀ length, headers.declaredLength? = some length → length ≤ limit

theorem declaresWithin_or (limit : Nat) (headers : HeaderFields) :
    headers.DeclaresWithin limit ∨
      ∃ length, headers.declaredLength? = some length ∧ limit < length := by
  cases declares : headers.declaredLength? with
  | none =>
      refine .inl fun length found => ?_
      rw [declares] at found
      cases found
  | some declared =>
      by_cases exceeds : limit < declared
      · exact .inr ⟨declared, rfl, exceeds⟩
      · refine .inl fun length found => ?_
        obtain rfl := Option.some.inj (declares.symm.trans found)
        exact Nat.le_of_not_lt exceeds

end HeaderFields

/-- A body that can be read within the limits. -/
structure ReadableBody (limits : ServerLimits) (headers : HeaderFields) (body : RequestBody) :
    Prop where
  declared : headers.DeclaresWithin limits.maxBodyBytes
  within : body.bytes.length ≤ limits.maxBodyBytes
  complete : body.ending = .complete

/-- The error of a body that cannot be read.  The bytes that come are counted before it matters
how they end. -/
inductive BodyRefusal (limits : ServerLimits) (headers : HeaderFields) (body : RequestBody) :
    HostError → Prop where
  | declaredTooLong {length : Nat} (declares : headers.declaredLength? = some length)
      (exceeds : limits.maxBodyBytes < length) :
      BodyRefusal limits headers body (.payloadTooLarge limits.maxBodyBytes)
  | grownTooLong (declared : headers.DeclaresWithin limits.maxBodyBytes)
      (exceeds : limits.maxBodyBytes < body.bytes.length) :
      BodyRefusal limits headers body (.payloadTooLarge limits.maxBodyBytes)
  | broken {message : String} (declared : headers.DeclaresWithin limits.maxBodyBytes)
      (within : body.bytes.length ≤ limits.maxBodyBytes)
      (breaks : body.ending = .broken message) :
      BodyRefusal limits headers body
        (.invalidArgument ("failed to read request body: " ++ message))
  | stalled (declared : headers.DeclaresWithin limits.maxBodyBytes)
      (within : body.bytes.length ≤ limits.maxBodyBytes) (stalls : body.ending = .stalled) :
      BodyRefusal limits headers body (.requestTimeout limits.bodyReadTimeout)

/-- Chunks are taken as if they came in one piece. -/
theorem readChunks_eq {limits : ServerLimits} (ending : BodyEnding) (read : List UInt8)
    (fits : read.length ≤ limits.maxBodyBytes) (chunks : List (List UInt8)) :
    readChunks limits ending read chunks =
      if limits.maxBodyBytes < (read ++ chunks.flatten).length then
        .error (.payloadTooLarge limits.maxBodyBytes)
      else ending.result limits (read ++ chunks.flatten) := by
  -- What has been read stays within the limit, or the next chunk would have been refused.
  induction chunks generalizing read with
  | nil =>
      rw [readChunks, List.flatten_nil, List.append_nil, if_neg (Nat.not_lt.mpr fits)]
  | cons chunk rest ih =>
      rw [readChunks, List.flatten_cons, ← List.append_assoc]
      by_cases overflows : limits.maxBodyBytes < read.length + chunk.length
      · have grown : limits.maxBodyBytes < (read ++ chunk ++ rest.flatten).length := by
          simp only [List.length_append]
          omega
        rw [if_pos overflows, if_pos grown]
      · rw [if_neg overflows]
        exact ih _ (by rw [List.length_append]; omega)

namespace RequestBody

variable {limits : ServerLimits} {headers : HeaderFields} {body : RequestBody}

theorem read_of_declaresWithin (declared : headers.DeclaresWithin limits.maxBodyBytes) :
    body.read limits headers =
      if limits.maxBodyBytes < body.bytes.length then
        .error (.payloadTooLarge limits.maxBodyBytes)
      else body.ending.result limits body.bytes := by
  have taken := readChunks_eq body.ending [] (Nat.zero_le limits.maxBodyBytes) body.chunks
  rw [read]
  cases declares : headers.declaredLength? with
  | none => exact taken
  | some length =>
      simp only [Nat.not_lt.mpr (declared length declares), if_false]
      exact taken

theorem read_of_readable (readable : ReadableBody limits headers body) :
    body.read limits headers = .ok body.bytes := by
  rw [read_of_declaresWithin readable.declared, if_neg (Nat.not_lt.mpr readable.within),
    readable.complete]
  rfl

theorem read_of_refusal {error : HostError} (refusal : BodyRefusal limits headers body error) :
    body.read limits headers = .error error := by
  cases refusal with
  | declaredTooLong declares exceeds => simp only [read, declares, exceeds, if_true]
  | grownTooLong declared exceeds => rw [read_of_declaresWithin declared, if_pos exceeds]
  | broken declared within breaks =>
      rw [read_of_declaresWithin declared, if_neg (Nat.not_lt.mpr within), breaks]
      rfl
  | stalled declared within stalls =>
      rw [read_of_declaresWithin declared, if_neg (Nat.not_lt.mpr within), stalls]
      rfl

/-- Every body can be read or is refused. -/
theorem readable_or_refusal (limits : ServerLimits) (headers : HeaderFields)
    (body : RequestBody) :
    ReadableBody limits headers body ∨ ∃ error, BodyRefusal limits headers body error := by
  rcases headers.declaresWithin_or limits.maxBodyBytes with declared | ⟨_, declares, exceeds⟩
  · by_cases exceeds : limits.maxBodyBytes < body.bytes.length
    · exact .inr ⟨_, .grownTooLong declared exceeds⟩
    · have within := Nat.le_of_not_lt exceeds
      cases ends : body.ending with
      | complete => exact .inl ⟨declared, within, ends⟩
      | broken message => exact .inr ⟨_, .broken declared within ends⟩
      | stalled => exact .inr ⟨_, .stalled declared within ends⟩
  · exact .inr ⟨_, .declaredTooLong declares exceeds⟩

theorem read_eq_ok_iff {bytes : List UInt8} :
    body.read limits headers = .ok bytes ↔
      ReadableBody limits headers body ∧ body.bytes = bytes := by
  constructor
  · intro succeeds
    rcases readable_or_refusal limits headers body with readable | ⟨error, refusal⟩
    · exact ⟨readable, Except.ok.inj ((read_of_readable readable).symm.trans succeeds)⟩
    · rw [read_of_refusal refusal] at succeeds
      cases succeeds
  · rintro ⟨readable, rfl⟩
    exact read_of_readable readable

theorem read_eq_error_iff {error : HostError} :
    body.read limits headers = .error error ↔ BodyRefusal limits headers body error := by
  constructor
  · intro fails
    rcases readable_or_refusal limits headers body with readable | ⟨other, refusal⟩
    · rw [read_of_readable readable] at fails
      cases fails
    · rw [read_of_refusal refusal] at fails
      cases fails
      exact refusal
  · exact read_of_refusal

/-! ### Chunks make no difference -/

section Values

variable {α : Type} {reader : List Symbol → Except JsonFault α} {value : α} {error : HostError}

end Values

end RequestBody

end PluginHost
