import Mathlib.Data.List.Dedup
import PluginHost.Proofs.Text.ByteOrder
import PluginHost.Tool.Registry

/-!
# Registrations of tools

A registry is filled by plugins and by single functions.  What it holds in the end does not
depend on how the functions came to it, but only on their order: every name has the tool of the
last function of that name whose registration succeeded, and the names stand in the order of
their bytes.
-/

namespace PluginHost

open Text

/-- A function that is submitted to a registry, with the instance that owns it. -/
structure Submission where
  owner : PluginHandle
  number : Nat
  function : ToolFunction

namespace Submission

def name (submission : Submission) : String :=
  submission.function.descriptor.name

/-- The tool of a submission that succeeds: its name is not blank and its schema compiles. -/
structure Yields (submission : Submission) (tool : RegisteredTool) : Prop where
  named : isBlankText submission.name = false
  compiles : CompiledSchema.ofJson submission.function.descriptor.parametersSchema =
    .ok tool.schema
  definition_eq : tool.definition = ToolDefinition.of submission.owner.id submission.function
  handler_eq : tool.handler = submission.function.handler
  owner_eq : tool.owner = submission.number

def Succeeds (submission : Submission) : Prop :=
  ∃ tool, submission.Yields tool

/-- The tool of a submission, if it succeeds. -/
def tool? (submission : Submission) : Option RegisteredTool :=
  if isBlankText submission.name then none
  else
    match CompiledSchema.ofJson submission.function.descriptor.parametersSchema with
    | .error _ => none
    | .ok schema =>
      some ⟨ToolDefinition.of submission.owner.id submission.function, schema,
        submission.function.handler, submission.number⟩

theorem tool?_eq_some_iff (submission : Submission) (tool : RegisteredTool) :
    submission.tool? = some tool ↔ submission.Yields tool := by
  unfold tool?
  constructor
  · intro yields
    split at yields
    · cases yields
    · rename_i named
      split at yields
      · cases yields
      · rename_i schema compiles
        cases yields
        exact ⟨by simpa using named, compiles, rfl, rfl, rfl⟩
  · rintro ⟨named, compiles, definition_eq, handler_eq, owner_eq⟩
    rw [named, compiles, ← definition_eq, ← handler_eq, ← owner_eq]
    rfl

theorem tool?_eq_none_iff (submission : Submission) :
    submission.tool? = none ↔ ¬ submission.Succeeds := by
  rw [Succeeds, Option.eq_none_iff_forall_ne_some]
  constructor
  · rintro fails ⟨tool, yields⟩
    exact fails tool ((submission.tool?_eq_some_iff tool).mpr yields)
  · intro fails tool found
    exact fails ⟨tool, (submission.tool?_eq_some_iff tool).mp found⟩

instance (submission : Submission) : Decidable submission.Succeeds :=
  decidable_of_iff (submission.tool?.isSome = true) (by
    rw [← not_iff_not, ← submission.tool?_eq_none_iff, Option.not_isSome_iff_eq_none])

theorem Yields.name_eq {submission : Submission} {tool : RegisteredTool}
    (yields : submission.Yields tool) : tool.definition.name = submission.name := by
  rw [yields.definition_eq]
  rfl

end Submission

/-- What can be asked of a registry: to register the tools of an instance, or one function. -/
inductive RegistryRequest where
  | plugin (handles : Handles) (number : Nat)
  | function (submission : Submission)

/-- The functions that a request submits, in order. -/
def RegistryRequest.submissions : RegistryRequest → List Submission
  | .plugin handles number =>
    match handles[number]? with
    | none => []
    | some handle => handle.tools.map (Submission.mk handle number)
  | .function submission => [submission]

namespace ToolRegistry

/-- The registry after a submission; one that fails leaves it as it was. -/
def submit (registry : ToolRegistry) (submission : Submission) : ToolRegistry :=
  match registry.registerFunction submission.owner.id submission.number submission.function with
  | .ok (next, _) => next
  | .error _ => registry

def perform (registry : ToolRegistry) : RegistryRequest → ToolRegistry
  | .plugin handles number => (registry.registerPlugin handles number).registry
  | .function submission => registry.submit submission

def run (registry : ToolRegistry) (requests : List RegistryRequest) : ToolRegistry :=
  requests.foldl perform registry

/-! ### Single submissions -/

theorem registerFunction_of_yields (registry : ToolRegistry) {submission : Submission}
    {tool : RegisteredTool} (yields : submission.Yields tool) :
    registry.registerFunction submission.owner.id submission.number submission.function =
      .ok (registry.put tool) := by
  obtain ⟨definition, schema, handler, owner⟩ := tool
  obtain ⟨named, compiles, rfl, rfl, rfl⟩ := yields
  have named : isBlankText submission.function.descriptor.name = false := named
  simp only [registerFunction, named, compiles]
  rfl

theorem registerFunction_of_not_succeeds (registry : ToolRegistry) {submission : Submission}
    (fails : ¬ submission.Succeeds) :
    ∃ message, registry.registerFunction submission.owner.id submission.number
        submission.function = .error (.plugin submission.owner.id message) := by
  cases blank : isBlankText submission.name with
  | true =>
      have blank : isBlankText submission.function.descriptor.name = true := blank
      refine ⟨"tool name must not be empty", ?_⟩
      simp only [registerFunction, blank]
      rfl
  | false =>
      have named : isBlankText submission.function.descriptor.name = false := blank
      cases compiled : CompiledSchema.ofJson submission.function.descriptor.parametersSchema with
      | ok schema =>
          exact (fails ⟨⟨_, schema, _, _⟩, blank, compiled, rfl, rfl, rfl⟩).elim
      | error fault =>
          refine ⟨s!"schema of tool `{submission.name}` does not compile: {fault.message}", ?_⟩
          simp only [registerFunction, named, compiled]
          rfl

theorem submit_of_yields (registry : ToolRegistry) {submission : Submission}
    {tool : RegisteredTool} (yields : submission.Yields tool) :
    registry.submit submission = (registry.put tool).1 := by
  rw [submit, registry.registerFunction_of_yields yields]

theorem submit_of_not_succeeds (registry : ToolRegistry) {submission : Submission}
    (fails : ¬ submission.Succeeds) : registry.submit submission = registry := by
  obtain ⟨message, refused⟩ := registry.registerFunction_of_not_succeeds fails
  rw [submit, refused]

theorem find?_put (registry : ToolRegistry) (tool : RegisteredTool) (name : String) :
    (registry.put tool).1.find? name =
      if tool.definition.name = name then some tool else registry.find? name :=
  KeyedList.get?_insert _ _ _ _

/-- A submission changes at most what is under its own name. -/
theorem find?_submit (registry : ToolRegistry) (submission : Submission) (name : String) :
    (registry.submit submission).find? name =
      if submission.name = name then submission.tool?.or (registry.find? name)
      else registry.find? name := by
  cases found : submission.tool? with
  | none =>
      have fails := submission.tool?_eq_none_iff.mp found
      rw [registry.submit_of_not_succeeds fails, Option.none_or, ite_self]
  | some tool =>
      have yields := (submission.tool?_eq_some_iff tool).mp found
      rw [registry.submit_of_yields yields, find?_put, yields.name_eq, Option.some_or]

theorem sorted_submit {registry : ToolRegistry} (sorted : KeyedList.Sorted registry.tools)
    (submission : Submission) : KeyedList.Sorted (registry.submit submission).tools := by
  cases found : submission.tool? with
  | none => rwa [registry.submit_of_not_succeeds (submission.tool?_eq_none_iff.mp found)]
  | some tool =>
      rw [registry.submit_of_yields ((submission.tool?_eq_some_iff tool).mp found)]
      exact KeyedList.sorted_insert _ _ sorted

/-! ### Requests, submission by submission -/

/-- Registering functions in turn is submitting them; those that succeed are counted. -/
theorem registerAll_eq (owner : PluginHandle) (number : Nat) (functions : List ToolFunction)
    (done : Registration) :
    (registerAll owner.id number functions done).registry =
        (functions.map (Submission.mk owner number)).foldl submit done.registry ∧
      (registerAll owner.id number functions done).count =
        done.count +
          (functions.map (Submission.mk owner number)).countP fun each => each.Succeeds := by
  induction functions generalizing done with
  | nil => exact ⟨rfl, rfl⟩
  | cons function functions ih =>
      rw [registerAll, List.map_cons, List.foldl_cons]
      -- A function that is refused changes neither the registry nor the count.
      by_cases succeeds : (Submission.mk owner number function).Succeeds
      · rw [List.countP_cons_of_pos (by simpa using succeeds)]
        obtain ⟨tool, yields⟩ := succeeds
        have accepted := done.registry.registerFunction_of_yields yields
        rw [done.registry.submit_of_yields yields]
        simp only [accepted]
        obtain ⟨registry, count⟩ := ih
          ⟨(done.registry.put tool).1, done.count + 1,
            done.warnings ++ (done.registry.put tool).2⟩
        refine ⟨registry, ?_⟩
        rw [count]
        dsimp only
        omega
      · rw [List.countP_cons_of_neg (by simpa using succeeds)]
        obtain ⟨message, refused⟩ := done.registry.registerFunction_of_not_succeeds succeeds
        rw [done.registry.submit_of_not_succeeds succeeds]
        simp only [refused]
        exact ih _

theorem registerPlugin_of_active (registry : ToolRegistry) {handles : Handles} {number : Nat}
    {handle : PluginHandle} (found : handles[number]? = some handle)
    (active : handle.isActive = true) :
    registry.registerPlugin handles number =
      registerAll handle.id number handle.tools ⟨registry, 0, []⟩ := by
  rw [registerPlugin, found]
  simp only [active, if_true]

theorem registerPlugin_of_not_active (registry : ToolRegistry) {handles : Handles}
    {number : Nat} (inactive : handles.isActive number = false) :
    (registry.registerPlugin handles number).registry = registry ∧
      (registry.registerPlugin handles number).count = 0 := by
  rw [registerPlugin]
  cases found : handles[number]? with
  | none => exact ⟨rfl, rfl⟩
  | some handle =>
      have inactive : handle.isActive = false := by
        simpa [Handles.isActive, found] using inactive
      dsimp only
      rw [inactive]
      exact ⟨rfl, rfl⟩

theorem submissions_of_not_active {handles : Handles} {number : Nat}
    (inactive : handles.isActive number = false) :
    (RegistryRequest.plugin handles number).submissions = [] := by
  rw [RegistryRequest.submissions]
  cases found : handles[number]? with
  | none => rfl
  | some handle =>
      have inactive : handle.isActive = false := by
        simpa [Handles.isActive, found] using inactive
      cases state : handle.state with
      | active context => simp [PluginHandle.isActive, state] at inactive
      | _ => simp [PluginHandle.tools, state]

theorem registerPlugin_eq (registry : ToolRegistry) (handles : Handles) (number : Nat) :
    (registry.registerPlugin handles number).registry =
        (RegistryRequest.plugin handles number).submissions.foldl submit registry ∧
      (registry.registerPlugin handles number).count =
        (RegistryRequest.plugin handles number).submissions.countP
          fun each => each.Succeeds := by
  cases active : handles.isActive number with
  | false =>
      rw [submissions_of_not_active active]
      exact registry.registerPlugin_of_not_active active
  | true =>
      obtain ⟨handle, context, found, state⟩ := (handles.isActive_eq_true_iff number).mp active
      have activeHandle : handle.isActive = true := by simp [PluginHandle.isActive, state]
      rw [registry.registerPlugin_of_active found activeHandle, RegistryRequest.submissions, found]
      obtain ⟨filled, count⟩ := registerAll_eq handle number handle.tools ⟨registry, 0, []⟩
      exact ⟨filled, by rw [count, Nat.zero_add]⟩

theorem perform_eq_foldl_submit (registry : ToolRegistry) (request : RegistryRequest) :
    registry.perform request = request.submissions.foldl submit registry := by
  cases request with
  | plugin handles number => exact (registry.registerPlugin_eq handles number).1
  | function submission => rfl

theorem run_eq_foldl_submit (registry : ToolRegistry) (requests : List RegistryRequest) :
    registry.run requests =
      (requests.flatMap RegistryRequest.submissions).foldl submit registry := by
  induction requests generalizing registry with
  | nil => rfl
  | cons request requests ih =>
      rw [List.flatMap_cons, List.foldl_append, ← perform_eq_foldl_submit, ← ih]
      rfl

/-! ### Where tools come from -/

theorem find?_foldl_submit {registry : ToolRegistry} {submissions : List Submission}
    {name : String} {tool : RegisteredTool}
    (found : (submissions.foldl submit registry).find? name = some tool) :
    registry.find? name = some tool ∨ ∃ submission ∈ submissions, submission.Yields tool := by
  induction submissions generalizing registry with
  | nil => exact .inl found
  | cons submission submissions ih =>
      rcases ih found with first | ⟨later, member, yields⟩
      · rw [find?_submit] at first
        split at first
        · rcases Option.or_eq_some_iff.mp first with yielded | ⟨-, old⟩
          · have yields := (submission.tool?_eq_some_iff tool).mp yielded
            exact .inr ⟨submission, List.mem_cons_self, yields⟩
          · exact .inl old
        · exact .inl first
      · exact .inr ⟨later, List.mem_cons_of_mem _ member, yields⟩

/-- A tool that is there after a request was there before or comes from the request. -/
theorem find?_perform {registry : ToolRegistry} {request : RegistryRequest} {name : String}
    {tool : RegisteredTool} (found : (registry.perform request).find? name = some tool) :
    registry.find? name = some tool ∨
      ∃ submission ∈ request.submissions, submission.Yields tool := by
  apply find?_foldl_submit
  rwa [← registry.perform_eq_foldl_submit]

end ToolRegistry

end PluginHost
