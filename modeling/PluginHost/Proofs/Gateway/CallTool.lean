import PluginHost.Proofs.Gateway.Body
import PluginHost.Proofs.Gateway.Layers
import PluginHost.Proofs.Json.Record
import PluginHost.Proofs.Tool.Invocation

/-!
# Tool calls by request

A request to call a tool goes through stages: its body is read, the bytes are parsed, the call
is checked and the tool runs.  The first stage that fails decides the answer, and nothing runs
unless every stage before it has succeeded.
-/

namespace PluginHost

open Text

namespace CallRequest

/-- The call that a record spells.  Arguments that are left out are null. -/
inductive Spells (stream : List Symbol) : CallRequest → Prop where
  | given {values : RecordValues} {name : String} {args : Json}
      (reads : shape.read stream = .ok values)
      (named : RecordValues.find? "name" values = some (.text name))
      (supplied : RecordValues.find? "args" values = some (.value args)) :
      Spells stream ⟨name, args⟩
  | omitted {values : RecordValues} {name : String} (reads : shape.read stream = .ok values)
      (named : RecordValues.find? "name" values = some (.text name))
      (leftOut : RecordValues.find? "args" values = none) :
      Spells stream ⟨name, .null⟩

variable {values : RecordValues}

theorem named_of_describes (described : shape.Describes values) :
    ∃ name, RecordValues.find? "name" values = some (.text name) := by
  have present := described.present ⟨"name", .text, true⟩ (by simp [shape]) rfl
  obtain ⟨value, found⟩ := Option.isSome_iff_exists.mp present
  obtain ⟨field, member, same, kind⟩ := described.admitted _ (RecordValues.mem_of_find? found)
  simp only [shape, List.mem_cons, List.not_mem_nil, or_false] at member
  rcases member with rfl | rfl
  · cases kind with
    | text name => exact ⟨name, found⟩
  · simp at same

theorem args_of_describes (described : shape.Describes values) :
    RecordValues.find? "args" values = none ∨
      ∃ args, RecordValues.find? "args" values = some (.value args) := by
  cases found : RecordValues.find? "args" values with
  | none => exact .inl rfl
  | some value =>
      obtain ⟨field, member, same, kind⟩ := described.admitted _ (RecordValues.mem_of_find? found)
      simp only [shape, List.mem_cons, List.not_mem_nil, or_false] at member
      rcases member with rfl | rfl
      · simp at same
      · cases kind with
        | value args => exact .inr ⟨args, rfl⟩

theorem read_eq_ok_iff {stream : List Symbol} {call : CallRequest} :
    read stream = .ok call ↔ Spells stream call := by
  constructor
  · intro succeeds
    obtain ⟨values, reads, rfl⟩ := exists_of_map_eq_ok succeeds
    have described := RecordShape.read_describes reads
    obtain ⟨name, named⟩ := named_of_describes described
    rw [RecordValues.textOf, named]
    rcases args_of_describes described with leftOut | ⟨args, supplied⟩
    · rw [RecordValues.valueOf, leftOut]
      exact .omitted reads named leftOut
    · rw [RecordValues.valueOf, supplied]
      exact .given reads named supplied
  · intro spells
    cases spells with
    | given reads named supplied =>
        simp only [read, reads, Except.map, RecordValues.textOf, RecordValues.valueOf, named,
          supplied]
    | omitted reads named leftOut =>
        simp only [read, reads, Except.map, RecordValues.textOf, RecordValues.valueOf, named,
          leftOut]

theorem read_eq_error_iff {stream : List Symbol} {fault : JsonFault} :
    read stream = .error fault ↔ shape.read stream = .error fault := by
  rw [read]
  cases shape.read stream <;> simp [Except.map]

end CallRequest

namespace Gateway

variable {gateway : Gateway} {handles : Handles} {request : GatewayRequest}

end Gateway

end PluginHost
