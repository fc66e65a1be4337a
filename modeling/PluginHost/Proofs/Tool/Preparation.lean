import PluginHost.Proofs.Tool.Binding
import PluginHost.Tool.Invocation

/-!
# The checks before a handler is called

A call reaches the handler of its tool only when the tool is registered, its owner is active,
the arguments are an object or null, they can be bound and the schema has nothing against them.
Any other call is told the first of these checks that it fails.

The schema is asked about fewer arguments than the handler gets.  What it does not get to see
is null, bound to an optional parameter about which nothing was said.
-/

namespace PluginHost

open ParameterDefinition

/-- The fields that the arguments of a call supply. -/
inductive Supplies : Json → JsonFields → Prop where
  | null : Supplies .null []
  | object (fields : JsonFields) : Supplies (.object fields) fields

/-- A call that passes every check: its tool, the supplied fields and what they are bound to. -/
structure PassingCall (registry : ToolRegistry) (handles : Handles) (name : String)
    (args : Json) where
  tool : RegisteredTool
  fields : JsonFields
  arguments : BoundArguments
  registered : registry.find? name = some tool
  active : handles.isActive tool.owner = true
  supplies : Supplies args fields
  binds : BoundArguments.ofSupplied tool.definition.parameters fields = .ok arguments
  valid : tool.schema.violations (.object arguments.checked) = []

/-- The error of the first check that a call fails. -/
inductive CallRefusal (registry : ToolRegistry) (handles : Handles) (name : String)
    (args : Json) : HostError → Prop where
  | notFound (unregistered : registry.find? name = none) :
      CallRefusal registry handles name args (.toolNotFound name)
  | unavailable {tool : RegisteredTool} (registered : registry.find? name = some tool)
      (inactive : handles.isActive tool.owner = false) :
      CallRefusal registry handles name args (.pluginUnavailable tool.definition.pluginId)
  | notObject {tool : RegisteredTool} (registered : registry.find? name = some tool)
      (active : handles.isActive tool.owner = true)
      (supplyNothing : ∀ fields, ¬ Supplies args fields) :
      CallRefusal registry handles name args
        (.invalidArgument "arguments must be a JSON object")
  | unbound {tool : RegisteredTool} {fields : JsonFields} {error : HostError}
      (registered : registry.find? name = some tool)
      (active : handles.isActive tool.owner = true) (supplies : Supplies args fields)
      (offence : FirstOffence fields error tool.definition.parameters) :
      CallRefusal registry handles name args error
  | invalid {tool : RegisteredTool} {fields : JsonFields} {arguments : BoundArguments}
      (registered : registry.find? name = some tool)
      (active : handles.isActive tool.owner = true) (supplies : Supplies args fields)
      (binds : BoundArguments.ofSupplied tool.definition.parameters fields = .ok arguments)
      (invalid : tool.schema.violations (.object arguments.checked) ≠ []) :
      CallRefusal registry handles name args
        (.invalidArgument ("; ".intercalate
          ((tool.schema.violations (.object arguments.checked)).map SchemaViolation.message)))

/-- A call of a tool that is there and may be called is refused for its arguments only. -/
theorem CallRefusal.exists_message {registry : ToolRegistry} {handles : Handles} {name : String}
    {args : Json} {error : HostError} {tool : RegisteredTool}
    (refusal : CallRefusal registry handles name args error)
    (registered : registry.find? name = some tool)
    (active : handles.isActive tool.owner = true) :
    ∃ message, error = .invalidArgument message := by
  cases refusal with
  | notFound unregistered => cases registered.symm.trans unregistered
  | unavailable found inactive =>
      cases registered.symm.trans found
      cases active.symm.trans inactive
  | notObject _ _ _ => exact ⟨_, rfl⟩
  | unbound _ _ _ offence =>
      exact offence.exists_message
  | invalid _ _ _ _ _ => exact ⟨_, rfl⟩

theorem supplied_of_supplies {args : Json} {fields : JsonFields}
    (supplies : Supplies args fields) : ToolRegistry.supplied args = .ok fields := by
  cases supplies <;> rfl

theorem supplied_of_not_supplies {args : Json}
    (supplyNothing : ∀ fields, ¬ Supplies args fields) :
    ToolRegistry.supplied args = .error (.invalidArgument "arguments must be a JSON object") := by
  cases args with
  | null => exact (supplyNothing [] .null).elim
  | object fields => exact (supplyNothing fields (.object fields)).elim
  | _ => rfl

theorem exists_supplies_or (args : Json) :
    (∃ fields, Supplies args fields) ∨ ∀ fields, ¬ Supplies args fields := by
  cases args with
  | null => exact .inl ⟨[], .null⟩
  | object fields => exact .inl ⟨fields, .object fields⟩
  | _ =>
      refine .inr ?_
      intro fields supplies
      cases supplies

theorem checkSchema_of_valid {schema : CompiledSchema} {checked : Json}
    (valid : schema.violations checked = []) :
    ToolRegistry.checkSchema schema checked = .ok () := by
  rw [ToolRegistry.checkSchema, valid]

theorem checkSchema_of_invalid {schema : CompiledSchema} {checked : Json}
    (invalid : schema.violations checked ≠ []) :
    ToolRegistry.checkSchema schema checked =
      .error (.invalidArgument
        ("; ".intercalate ((schema.violations checked).map SchemaViolation.message))) := by
  rw [ToolRegistry.checkSchema]
  cases violations : schema.violations checked with
  | nil => exact (invalid violations).elim
  | cons first rest => rfl

namespace PassingCall

variable {registry : ToolRegistry} {handles : Handles} {name : String} {args : Json}

/-- What is put to the handler of a call that passes. -/
def prepared (passing : PassingCall registry handles name args) : PreparedCall :=
  ⟨passing.tool, ⟨passing.arguments.bound⟩⟩

theorem prepare_eq (passing : PassingCall registry handles name args) :
    registry.prepare handles name args = .ok passing.prepared := by
  simp only [ToolRegistry.prepare, passing.registered, passing.active,
    supplied_of_supplies passing.supplies, passing.binds, checkSchema_of_valid passing.valid]
  rfl

/-- A bound value is one that the schema has seen, or the null of an optional parameter without
a default that was omitted. -/
theorem checked_or_omitted (passing : PassingCall registry handles name args)
    (distinct : (passing.tool.definition.parameters.map ParameterDefinition.name).Nodup)
    {key : String} {value : Json}
    (bound : KeyedList.get? key passing.arguments.bound = some value) :
    KeyedList.get? key passing.arguments.checked = some value ∨
      ∃ parameter ∈ passing.tool.definition.parameters,
        parameter.name = key ∧ KeyedList.get? key passing.fields = none ∧
          parameter.default = none ∧ parameter.required = false ∧ value = .null := by
  obtain ⟨inoffensive, bindings⟩ := (BoundArguments.ofSupplied_eq_ok_iff _ _ _).mp passing.binds
  rw [← bindings] at bound ⊢
  by_cases known : key ∈ passing.tool.definition.parameters.map ParameterDefinition.name
  · obtain ⟨parameter, member, rfl⟩ := List.mem_map.mp known
    obtain ⟨boundTo, checkedAs⟩ :=
      BoundArguments.get?_bindValues_of_mem distinct member passing.fields .empty
    obtain rfl := Option.some.inj (boundTo.symm.trans bound)
    rw [checkedAs]
    cases omitted : parameter.isOmitted (KeyedList.get? parameter.name passing.fields) with
    | false => exact .inl rfl
    | true =>
        obtain ⟨unsupplied, noDefault, optional⟩ :=
          required_eq_false_of_isOmitted (inoffensive.offence?_eq_none distinct member) omitted
        refine .inr ⟨parameter, member, rfl, unsupplied, noDefault, optional, ?_⟩
        rw [unsupplied, ParameterDefinition.value, noDefault]
        rfl
  · have unbound := (BoundArguments.get?_bindValues_of_not_mem known passing.fields .empty).1
    rw [unbound] at bound
    cases bound

end PassingCall

namespace ToolRegistry

variable {registry : ToolRegistry} {handles : Handles} {name : String} {args : Json}

theorem prepare_of_refusal {error : HostError}
    (refusal : CallRefusal registry handles name args error) :
    registry.prepare handles name args = .error error := by
  cases refusal with
  | notFound unregistered => simp only [prepare, unregistered]
  | unavailable registered inactive =>
      simp only [prepare, registered, inactive]
      rfl
  | notObject registered active supplyNothing =>
      simp only [prepare, registered, active, supplied_of_not_supplies supplyNothing]
      rfl
  | unbound registered active supplies offence =>
      have fails := (BoundArguments.ofSupplied_eq_error_iff _ _ _).mpr offence
      simp only [prepare, registered, active, supplied_of_supplies supplies, fails]
      rfl
  | invalid registered active supplies binds invalid =>
      simp only [prepare, registered, active, supplied_of_supplies supplies, binds,
        checkSchema_of_invalid invalid]
      rfl

/-- Every call passes all checks or fails a first one. -/
theorem passing_or_refusal (registry : ToolRegistry) (handles : Handles) (name : String)
    (args : Json) :
    Nonempty (PassingCall registry handles name args) ∨
      ∃ error, CallRefusal registry handles name args error := by
  cases registered : registry.find? name with
  | none => exact .inr ⟨_, .notFound registered⟩
  | some tool =>
      cases active : handles.isActive tool.owner with
      | false => exact .inr ⟨_, .unavailable registered active⟩
      | true =>
          rcases exists_supplies_or args with ⟨fields, supplies⟩ | supplyNothing
          · cases binds : BoundArguments.ofSupplied tool.definition.parameters fields with
            | error error =>
                have offence := (BoundArguments.ofSupplied_eq_error_iff _ _ _).mp binds
                exact .inr ⟨error, .unbound registered active supplies offence⟩
            | ok arguments =>
                by_cases valid : tool.schema.violations (.object arguments.checked) = []
                · exact .inl ⟨tool, fields, arguments, registered, active, supplies, binds, valid⟩
                · exact .inr ⟨_, .invalid registered active supplies binds valid⟩
          · exact .inr ⟨_, .notObject registered active supplyNothing⟩

theorem prepare_eq_ok_iff {call : PreparedCall} :
    registry.prepare handles name args = .ok call ↔
      ∃ passing : PassingCall registry handles name args, passing.prepared = call := by
  constructor
  · intro prepared
    rcases passing_or_refusal registry handles name args with ⟨⟨passing⟩⟩ | ⟨error, refusal⟩
    · exact ⟨passing, Except.ok.inj (passing.prepare_eq.symm.trans prepared)⟩
    · rw [prepare_of_refusal refusal] at prepared
      cases prepared
  · rintro ⟨passing, rfl⟩
    exact passing.prepare_eq

theorem prepare_eq_error_iff {error : HostError} :
    registry.prepare handles name args = .error error ↔
      CallRefusal registry handles name args error := by
  constructor
  · intro refused
    rcases passing_or_refusal registry handles name args with ⟨⟨passing⟩⟩ | ⟨other, refusal⟩
    · rw [passing.prepare_eq] at refused
      cases refused
    · rw [prepare_of_refusal refusal] at refused
      cases refused
      exact refusal
  · exact prepare_of_refusal

/-! ### Handlers have no part in the checks -/

/-- The registry with other handlers in its tools. -/
def withHandlers (change : RegisteredTool → ToolArgs → ToolRun) (registry : ToolRegistry) :
    ToolRegistry :=
  ⟨registry.tools.map fun entry => (entry.1, { entry.2 with handler := change entry.2 })⟩

theorem find?_withHandlers (change : RegisteredTool → ToolArgs → ToolRun)
    (registry : ToolRegistry) (name : String) :
    (registry.withHandlers change).find? name =
      (registry.find? name).map fun tool => { tool with handler := change tool } := by
  obtain ⟨tools⟩ := registry
  rw [find?, find?, withHandlers]
  induction tools with
  | nil => rfl
  | cons entry tools ih =>
      obtain ⟨found, tool⟩ := entry
      rw [List.map_cons, KeyedList.get?_cons, KeyedList.get?_cons, ih]
      by_cases same : found = name <;> simp [same]

/-- With other handlers the same calls pass and the same errors are given. -/
theorem prepare_withHandlers (change : RegisteredTool → ToolArgs → ToolRun)
    (registry : ToolRegistry) (handles : Handles) (name : String) (args : Json) :
    (registry.withHandlers change).prepare handles name args =
      (registry.prepare handles name args).map fun call =>
        { call with tool := { call.tool with handler := change call.tool } } := by
  rw [prepare, prepare, find?_withHandlers]
  cases registry.find? name with
  | none => rfl
  | some tool =>
      simp only [Option.map_some]
      cases handles.isActive tool.owner with
      | false => rfl
      | true =>
          cases supplied args with
          | error error => rfl
          | ok fields =>
              simp only [Bool.not_true, Bool.false_eq_true, if_false]
              cases BoundArguments.ofSupplied tool.definition.parameters fields with
              | error error => rfl
              | ok arguments =>
                  simp only
                  cases checkSchema tool.schema (.object arguments.checked) with
                  | error error => rfl
                  | ok _ => rfl

/-! ### Handing calls over -/

/-- What a call does until its tool runs. -/
structure StartedCall where
  /-- What is put to handlers, in order. -/
  handlerCalls : List PreparedCall
  answer : Except HostError ToolRun

/-- Checks a call and puts it to its handler. -/
def start (registry : ToolRegistry) (handles : Handles) (name : String) (args : Json) :
    StartedCall :=
  match registry.prepare handles name args with
  | .error error => ⟨[], .error error⟩
  | .ok call => ⟨[call], .ok call.run⟩

/-- A caller that waits without a limit sees the run that was started. -/
theorem invoke_eq_start (registry : ToolRegistry) (handles : Handles) (name : String)
    (args : Json) :
    registry.invoke handles name args =
      match (registry.start handles name args).answer with
      | .error error => .finished (.error error)
      | .ok run => run.awaited := by
  rw [invoke, start]
  cases registry.prepare handles name args with
  | error error => rfl
  | ok call => rfl

theorem invokeWithin_started (registry : ToolRegistry) (handles : Handles) (name : String)
    (args : Json) (limit : Span) :
    (registry.invokeWithin handles name args limit).started.toList =
      (registry.start handles name args).handlerCalls := by
  rw [invokeWithin, start]
  cases registry.prepare handles name args with
  | error error => rfl
  | ok call => rfl

theorem start_of_passing (passing : PassingCall registry handles name args) :
    registry.start handles name args = ⟨[passing.prepared], .ok passing.prepared.run⟩ := by
  rw [start, passing.prepare_eq]

theorem start_eq_error_iff {error : HostError} :
    registry.start handles name args = ⟨[], .error error⟩ ↔
      registry.prepare handles name args = .error error := by
  rw [start]
  cases registry.prepare handles name args with
  | error other => simp
  | ok call => simp

theorem handlerCalls_ne_nil_iff :
    (registry.start handles name args).handlerCalls ≠ [] ↔
      ∃ call, registry.prepare handles name args = .ok call := by
  rw [start]
  cases registry.prepare handles name args with
  | error error => simp
  | ok call => simp

end ToolRegistry

/-- What becomes of a call, whatever the registry, its tool and its arguments. -/
structure CheckedCall (registry : ToolRegistry) (handles : Handles) (name : String)
    (args : Json) : Prop where
  /-- A call that passes every check is put to its handler once, with what it is bound to. -/
  passes : ∀ passing : PassingCall registry handles name args,
    registry.start handles name args =
      ⟨[⟨passing.tool, ⟨passing.arguments.bound⟩⟩],
        .ok (passing.tool.handler ⟨passing.arguments.bound⟩)⟩
  called_iff : (registry.start handles name args).handlerCalls ≠ [] ↔
    Nonempty (PassingCall registry handles name args)
  /-- Any other call is put to no handler and told the first check that it fails. -/
  refused_iff : ∀ error, registry.start handles name args = ⟨[], .error error⟩ ↔
    CallRefusal registry handles name args error
  refused_of_not_passing : ¬ Nonempty (PassingCall registry handles name args) →
    ∃ error, CallRefusal registry handles name args error
  /-- The checks come to the same whatever the handlers do. -/
  blind : ∀ change : RegisteredTool → ToolArgs → ToolRun,
    (registry.withHandlers change).prepare handles name args =
      (registry.prepare handles name args).map fun call =>
        { call with tool := { call.tool with handler := change call.tool } }
  /-- What the handler gets and the schema has not seen is the null of an omitted parameter. -/
  checked : ∀ passing : PassingCall registry handles name args,
    (passing.tool.definition.parameters.map ParameterDefinition.name).Nodup →
      ∀ key value, KeyedList.get? key passing.arguments.bound = some value →
        KeyedList.get? key passing.arguments.checked = some value ∨
          ∃ parameter ∈ passing.tool.definition.parameters,
            parameter.name = key ∧ KeyedList.get? key passing.fields = none ∧
              parameter.default = none ∧ parameter.required = false ∧ value = .null

/-- A handler is called exactly for the calls that pass every check. -/
theorem ToolRegistry.start_checkedCall (registry : ToolRegistry) (handles : Handles)
    (name : String) (args : Json) : CheckedCall registry handles name args where
  passes := start_of_passing
  called_iff := by
    rw [handlerCalls_ne_nil_iff]
    constructor
    · rintro ⟨call, prepared⟩
      obtain ⟨passing, _⟩ := prepare_eq_ok_iff.mp prepared
      exact ⟨passing⟩
    · rintro ⟨passing⟩
      exact ⟨passing.prepared, passing.prepare_eq⟩
  refused_iff := by
    intro error
    rw [start_eq_error_iff, prepare_eq_error_iff]
  refused_of_not_passing := by
    intro none
    rcases passing_or_refusal registry handles name args with passes | refused
    · exact (none passes).elim
    · exact refused
  blind := by
    intro change
    exact prepare_withHandlers change registry handles name args
  checked := by
    intro passing distinct key value bound
    exact passing.checked_or_omitted distinct bound

end PluginHost
