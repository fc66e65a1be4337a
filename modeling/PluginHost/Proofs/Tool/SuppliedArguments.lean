import PluginHost.Proofs.Tool.KeptArguments
import PluginHost.Proofs.Tool.Preparation
import PluginHost.Proofs.Tool.Registration

/-!
# Arguments that are supplied and still lost

Registration does not look at the names of the parameters.  A tool that is accepted keeps what is
supplied under a name that one of its parameters has and no other, all the way through the checks to
the handler; with two parameters of the name, the argument may be lost.
-/

namespace PluginHost

/-- What is supplied to a tool under a name is kept: no call that supplies it is told that it is
missing, what the parameter of the name makes of it is there when the schema is checked, and the
handler gets it. -/
structure KeepsSupplied (registry : ToolRegistry) (handles : Handles) (name key : String) :
    Prop where
  notMissing : ∀ fields argument, KeyedList.get? key fields = some argument →
    registry.prepare handles name (.object fields) ≠ .error (.missingParameter key)
  checked : ∀ fields argument tool arguments, KeyedList.get? key fields = some argument →
    registry.find? name = some tool →
      BoundArguments.ofSupplied tool.definition.parameters fields = .ok arguments →
        ∀ parameter ∈ tool.definition.parameters, parameter.name = key →
          ∃ value, coerce key parameter.type argument = .ok value ∧
            KeyedList.get? key arguments.checked = some value
  coerced : ∀ fields argument call, KeyedList.get? key fields = some argument →
    registry.prepare handles name (.object fields) = .ok call →
      ∀ parameter ∈ call.tool.definition.parameters, parameter.name = key →
        ∃ value, coerce key parameter.type argument = .ok value ∧
          call.args.raw? key = some value

theorem Supplies.eq_of_object {fields supplied : JsonFields}
    (supplies : Supplies (.object fields) supplied) : fields = supplied := by
  cases supplies
  rfl

namespace ToolRegistry

variable {registry registered : ToolRegistry} {handles : Handles} {name key : String}
  {tool : RegisteredTool} {pluginId : String} {owner : Nat} {function : ToolFunction}
  {warnings : List HostWarning}

/-- The report of a missing parameter comes from binding and from no other check. -/
theorem ofSupplied_of_prepare_missing {fields : JsonFields}
    (found : registry.find? name = some tool)
    (refused : registry.prepare handles name (.object fields) = .error (.missingParameter key)) :
    BoundArguments.ofSupplied tool.definition.parameters fields =
      .error (.missingParameter key) := by
  have refusal := prepare_eq_error_iff.mp refused
  generalize missing : HostError.missingParameter key = error at refusal ⊢
  cases refusal with
  | notFound _ => cases missing
  | unavailable _ _ => cases missing
  | notObject _ _ supplyNothing => exact absurd (.object fields) (supplyNothing fields)
  | unbound again _ supplies offence =>
      cases found.symm.trans again
      cases supplies
      exact (BoundArguments.ofSupplied_eq_error_iff _ _ _).mpr offence
  | invalid _ _ _ _ violated =>
      exact absurd missing.symm
        (HostError.ne_missingParameter (opensOtherwise_violations violated) key)

theorem keepsSupplied_of_once (found : registry.find? name = some tool)
    (once : (tool.definition.parameters.map ParameterDefinition.name).count key ≤ 1)
    (handles : Handles) : KeepsSupplied registry handles name key where
  notMissing fields argument given refused := by
    have keeps := BoundArguments.keeps_of_once once given
    exact keeps.notMissing (ofSupplied_of_prepare_missing found refused)
  checked fields argument other arguments given again binds parameter member named := by
    cases found.symm.trans again
    obtain ⟨value, coerces, -, checked⟩ :=
      BoundArguments.coerced_of_once once given binds member named
    exact ⟨value, coerces, checked⟩
  coerced fields argument call given prepared parameter member named := by
    obtain ⟨passing, rfl⟩ := prepare_eq_ok_iff.mp prepared
    have own : tool = passing.tool := Option.some.inj (found.symm.trans passing.registered)
    have fields_eq : fields = passing.fields := passing.supplies.eq_of_object
    rw [own] at once
    rw [fields_eq] at given
    obtain ⟨value, coerces, bound, -⟩ :=
      BoundArguments.coerced_of_once once given passing.binds member named
    exact ⟨value, coerces, bound⟩

theorem find?_of_registerFunction
    (accepted : registry.registerFunction pluginId owner function = .ok (registered, warnings)) :
    ∃ schema, registered.find? function.descriptor.name =
      some ⟨.of pluginId function, schema, function.handler, owner⟩ := by
  rw [registerFunction] at accepted
  split at accepted
  · cases accepted
  · split at accepted
    · cases accepted
    · next schema _ =>
        obtain ⟨rfl, -⟩ := Prod.mk.inj (Except.ok.inj accepted)
        exact ⟨schema, (find?_put registry _ _).trans (if_pos rfl)⟩

/-- A tool that was accepted keeps what is supplied under the name of one parameter only. -/
theorem keepsSupplied_of_registerFunction
    (accepted : registry.registerFunction pluginId owner function = .ok (registered, warnings))
    (once : (function.params.map ParamSpec.name).count key ≤ 1) (handles : Handles) :
    KeepsSupplied registered handles function.descriptor.name key := by
  obtain ⟨schema, found⟩ := find?_of_registerFunction accepted
  refine keepsSupplied_of_once found ?_ handles
  have names : (ToolDefinition.of pluginId function).parameters.map ParameterDefinition.name =
      function.params.map ParamSpec.name := List.map_map
  rwa [names]

/-- A size is kept although the tool has two parameters of another name. -/
theorem keepsSupplied_of_registerFunction_size :
    let version : Version := .ofNumbers 1 0 0
    let plugin : Plugin := ⟨fun _ => .succeeded, fun _ => [], fun _ => .succeeded⟩
    let handles : Handles := [⟨"p", plugin, .active ⟨version, version, .null, none⟩⟩]
    let params : List ParamSpec :=
      [⟨"tag", .string, none⟩, ⟨"size", .integer, none⟩, ⟨"tag", .string, some (.string "y")⟩]
    let function : ToolFunction :=
      ⟨⟨"t", "", "", .bool true, []⟩, params, fun _ => .immediate (.returned .null)⟩
    let fields : JsonFields := [("size", .string " 5 "), ("tag", .string "x")]
    (params.map ParamSpec.name).count "size" ≤ 1 ∧
      ∃ registered warnings,
        empty.registerFunction "p" 0 function = .ok (registered, warnings) ∧
          KeepsSupplied registered handles "t" "size" ∧
            ∃ call, registered.prepare handles "t" (.object fields) = .ok call ∧
              call.args.raw? "size" = some (.number (.integer 5 (by decide))) := by
  intro version plugin handles params function fields
  have once : (params.map ParamSpec.name).count "size" ≤ 1 := by decide
  obtain ⟨schema, compiles, anything⟩ : ∃ schema,
      CompiledSchema.ofJson function.descriptor.parametersSchema = .ok schema ∧
        schema.root = .anything := ⟨_, rfl, rfl⟩
  let tool : RegisteredTool := ⟨.of "p" function, schema, function.handler, 0⟩
  have yields : Submission.Yields ⟨.create "p" plugin, 0, function⟩ tool :=
    ⟨by decide +kernel, compiles, rfl, rfl, rfl⟩
  have accepted := empty.registerFunction_of_yields yields
  obtain ⟨arguments, binds⟩ :
      ∃ arguments, BoundArguments.ofSupplied tool.definition.parameters fields = .ok arguments :=
    ⟨_, rfl⟩
  have valid : schema.violations (.object arguments.checked) = [] := by
    rw [CompiledSchema.violations, anything]
    rfl
  let passing : PassingCall (empty.put tool).1 handles "t" (.object fields) :=
    ⟨tool, fields, arguments, rfl, rfl, .object fields, binds, valid⟩
  have keeps := keepsSupplied_of_registerFunction accepted once handles
  have member : ParameterDefinition.of function.descriptor ⟨"size", .integer, none⟩ ∈
      tool.definition.parameters := List.mem_map_of_mem (.tail _ (.head _))
  obtain ⟨value, coerces, bound⟩ :=
    keeps.coerced fields (.string " 5 ") passing.prepared rfl passing.prepare_eq _ member rfl
  cases coerces
  exact ⟨once, _, _, accepted, keeps, _, passing.prepare_eq, bound⟩

end ToolRegistry

/-- A tool with two parameters of one name, of which the second one may have a default. -/
def greetTool (default : Option Json) (required : List Json) : ToolFunction where
  descriptor :=
    { name := "greet"
      shortDescription := ""
      longDescription := ""
      parametersSchema := .ofFields [("required", .array required)]
      parameterDocs := [] }
  params := [⟨"name", .string, none⟩, ⟨"name", .string, default⟩]
  handler args := .immediate (.returned args.toJson)

/-- A supplied argument is lost three times: it is reported missing, or the default or null of the
second parameter is bound in its place. -/
theorem not_keepsSupplied_repeated :
    let version : Version := .ofNumbers 1 0 0
    let plugin : Plugin := ⟨fun _ => .succeeded, fun _ => [], fun _ => .succeeded⟩
    let handles : Handles := [⟨"p", plugin, .active ⟨version, version, .null, none⟩⟩]
    let fields : JsonFields := [("name", .string "x")]
    let bound (function : ToolFunction) : Option Json :=
      match BoundArguments.ofSupplied (ToolDefinition.of "p" function).parameters fields with
      | .ok arguments => KeyedList.get? "name" arguments.bound
      | .error _ => none
    (∃ registered warnings,
      ToolRegistry.empty.registerFunction "p" 0 (greetTool none [.string "name"]) =
          .ok (registered, warnings) ∧
        registered.prepare handles "greet" (.object fields) = .error (.missingParameter "name") ∧
          ¬ KeepsSupplied registered handles "greet" "name") ∧
      bound (greetTool (some (.string "y")) []) = some (.string "y") ∧
        bound (greetTool none []) = some .null := by
  intro version plugin handles fields bound
  refine ⟨?_, rfl, rfl⟩
  obtain ⟨schema, compiles⟩ : ∃ schema, CompiledSchema.ofJson
      (greetTool none [.string "name"]).descriptor.parametersSchema = .ok schema := ⟨_, rfl⟩
  let submission : Submission := ⟨.create "p" plugin, 0, greetTool none [.string "name"]⟩
  let tool : RegisteredTool := ⟨.of "p" submission.function, schema, submission.function.handler, 0⟩
  have yields : submission.Yields tool := ⟨by decide +kernel, compiles, rfl, rfl, rfl⟩
  have accepted := ToolRegistry.empty.registerFunction_of_yields yields
  have found : (ToolRegistry.empty.put tool).1.find? "greet" = some tool := rfl
  have unbound : BoundArguments.ofSupplied tool.definition.parameters fields =
      .error (.missingParameter "name") := rfl
  have offence := (BoundArguments.ofSupplied_eq_error_iff _ _ _).mp unbound
  have refusal : CallRefusal (ToolRegistry.empty.put tool).1 handles "greet" (.object fields)
      (.missingParameter "name") := .unbound found rfl (.object fields) offence
  have refused := ToolRegistry.prepare_of_refusal refusal
  refine ⟨_, _, accepted, refused, fun keeps => ?_⟩
  exact keeps.notMissing fields _ rfl refused

end PluginHost
