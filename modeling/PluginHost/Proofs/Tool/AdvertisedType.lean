import PluginHost.Proofs.Tool.Catalogue

/-!
# Advertised types and coercion

Callers are shown the whole schema of a tool, and a parameter keeps one type of it: the first that
the schema names for it, null apart.  Arguments are coerced to that type.  What it admits is
accepted, an integer that is written as a double only up to `2 ^ 63` on either side.  Null and
values that only another of the named types admits are held to the first type as well, so that
the schema may admit what coercion refuses.
-/

namespace PluginHost

open Coercion

namespace SchemaType

/-- The type to which arguments of a schema's type are coerced; null has none. -/
def paramType? : SchemaType → Option ParamType
  | null => none
  | array => some .array
  | boolean => some .boolean
  | integer => some .integer
  | number => some .number
  | object => some .object
  | string => some .string

theorem ofName?_name (type : SchemaType) : ParamType.ofName? type.name = type.paramType? := by
  cases type <;> decide +kernel

theorem name_ne_null_iff (type : SchemaType) : (type.name != "null") = (type != .null) := by
  cases type <;> decide +kernel

/-- The first of some types other than null. -/
def leading? (types : List SchemaType) : Option SchemaType :=
  types.find? (· != .null)

/-- Whether a type admits a value that is in reach of coercion: doubles are taken for integers
from `-2 ^ 63` to `2 ^ 63`. -/
def Fits (type : SchemaType) (value : Json) : Prop :=
  type.admits value = true ∧
    (type = .integer → ∀ double : Double, value = .number (.double double) →
      -greatestIntegral ≤ double.truncate ∧ double.truncate ≤ greatestIntegral)

end SchemaType

/-- A value in the place of a schema's `type` names types: one of them, or those of a list. -/
inductive NamesTypes : Json → List SchemaType → Prop where
  | one (type : SchemaType) : NamesTypes (.string type.name) [type]
  | several (types : List SchemaType) :
      NamesTypes (.array (types.map fun type => .string type.name)) types

open SchemaType

/-- The first named type other than null decides. -/
theorem NamesTypes.ofSchemaType?_eq {stated : Json} {types : List SchemaType}
    (names : NamesTypes stated types) :
    ParamType.ofSchemaType? stated = (leading? types).bind paramType? := by
  cases names with
  | one type =>
      rw [ParamType.ofSchemaType?, ofName?_name]
      cases type <;> rfl
  | several types =>
      have texts : (types.map fun type => Json.string type.name).filterMap Json.asString? =
          types.map name := by
        rw [List.filterMap_map]
        exact congrFun List.filterMap_eq_map' types
      have first : (types.map name).find? (fun name => name != "null") =
          (leading? types).map name := by
        rw [List.find?_map, leading?]
        congr 2
        exact funext name_ne_null_iff
      rw [ParamType.ofSchemaType?, texts, first, Option.bind_map]
      congr 1
      exact funext ofName?_name

/-! ### What coercion accepts -/

namespace ParameterDefinition

/-- Whether coercion lets a value through to a parameter. -/
def Accepts (parameter : ParameterDefinition) (value : Json) : Prop :=
  ∃ converted, coerce parameter.name parameter.type value = .ok converted

theorem accepts_iff (parameter : ParameterDefinition) (value : Json) :
    parameter.Accepts value ↔ (convert? parameter.type value).isSome = true := by
  rw [Accepts, coerce]
  cases convert? parameter.type value <;> simp

end ParameterDefinition

theorem isSome_integral?_iff (number : JsonNumber) :
    (integral? number).isSome = true ↔ SchemaType.integer.Fits (.number number) := by
  cases number with
  | integer value inRange => simp [integral?, Fits, admits, isInteger]
  | double double =>
      have inRange (low : -greatestIntegral ≤ double.truncate) :
          IsJsonInteger (min double.truncate IntegerRange.signed64.greatest) := by
        simp only [IsJsonInteger, IntegerRange.signed64]
        rw [greatestIntegral] at low
        have positive : (0 : Int) < Int.pow 2 63 := by decide
        have larger : Int.pow 2 63 < Int.pow 2 64 := by decide
        omega
      simp only [integral?, Fits, admits, isInteger, Bool.and_eq_true, decide_eq_true_eq]
      constructor
      · intro taken
        split at taken
        · rename_i conditions
          refine ⟨conditions.1.1, ?_⟩
          rintro - _ ⟨⟩
          exact ⟨conditions.1.2, conditions.2⟩
        · cases taken
      · rintro ⟨whole, bounds⟩
        obtain ⟨low, high⟩ := bounds trivial double rfl
        rw [if_pos ⟨⟨whole, low⟩, high⟩, JsonNumber.ofInt?, dif_pos (inRange low)]
        rfl

/-- A value that is written out where texts are asked for. -/
def Json.IsWritten : Json → Prop
  | .number _ | .bool _ => True
  | _ => False

/-- Apart from texts, a first type lets through what fits it, and the type of texts lets through
what is written out. -/
theorem isSome_convert?_iff {first : SchemaType} {type : ParamType}
    (paramType : first.paramType? = some type) {value : Json}
    (noText : first = .string ∨ ∀ text, value ≠ .string text) :
    (convert? type value).isSome = true ↔
      first.Fits value ∨ first = .string ∧ value.IsWritten := by
  cases first with
  | null => cases paramType
  | integer =>
      cases paramType
      cases value with
      | number number =>
          simp only [convert?, Option.isSome_map, isSome_integral?_iff, reduceCtorEq, false_and,
            or_false]
      | string text => exact absurd rfl ((noText.resolve_left nofun) text)
      | _ => simp [convert?, Fits, admits]
  | string =>
      cases paramType
      cases value with
      | bool flag => cases flag <;> simp [convert?, Fits, admits, Json.IsWritten]
      | _ => simp [convert?, Fits, admits, Json.IsWritten]
  | _ =>
      cases paramType
      cases value with
      | string text => exact absurd rfl ((noText.resolve_left nofun) text)
      | _ => simp [convert?, Fits, admits]

/-- What coercion makes of a value that one of the types named for a parameter admits. -/
structure HeldToFirstType (parameter : ParameterDefinition) (types : List SchemaType)
    (value : Json) : Prop where
  /-- What fits the first type other than null is accepted. -/
  accepted : ∀ first, leading? types = some first → first.Fits value → parameter.Accepts value
  /-- Of everything but texts the first type accepts nothing else, unless it is that of texts,
  which accepts numbers and truth values too. -/
  accepts_iff : ∀ first, leading? types = some first →
    (first = .string ∨ ∀ text, value ≠ .string text) →
      (parameter.Accepts value ↔ first.Fits value ∨ first = .string ∧ value.IsWritten)
  /-- Null is accepted only where no other type is named and the function takes any value. -/
  null_iff : value = .null →
    (parameter.Accepts value ↔ leading? types = none ∧ parameter.type = .any)

/-- A parameter of a registered tool for which the tool's schema names types. -/
inductive Advertises (registry : ToolRegistry) : ParameterDefinition → List SchemaType → Prop where
  | intro {name : String} {tool : RegisteredTool} {parameter : ParameterDefinition}
      {property stated : Json} {types : List SchemaType}
      (registered : registry.find? name = some tool)
      (member : parameter ∈ tool.definition.parameters)
      (found : ParameterDefinition.property? tool.definition.parametersSchema parameter.name =
        some property)
      (stated_eq : property.get? "type" = some stated) (names : NamesTypes stated types) :
      Advertises registry parameter types

/-- Every value that an advertised type admits is held to the first of the types. -/
def HoldsToFirstTypes (registry : ToolRegistry) : Prop :=
  ∀ parameter types value, Advertises registry parameter types →
    (∃ type ∈ types, type.admits value = true) → HeldToFirstType parameter types value

/-- Every value that an advertised type admits is accepted. -/
def AcceptsAdvertised (registry : ToolRegistry) : Prop :=
  ∀ parameter types value, Advertises registry parameter types →
    (∃ type ∈ types, type.admits value = true) → parameter.Accepts value

namespace ToolRegistry

theorem exists_param_of_registered {requests : List RegistryRequest} {name : String}
    {tool : RegisteredTool} (registered : (empty.run requests).find? name = some tool)
    {parameter : ParameterDefinition} (member : parameter ∈ tool.definition.parameters) :
    ∃ (descriptor : ToolDescriptor) (param : ParamSpec),
      tool.definition.parametersSchema = descriptor.parametersSchema ∧
        parameter = .of descriptor param := by
  rw [run_eq_filled] at registered
  obtain ⟨submission, -, yields⟩ := (find?_filled_iff _ name tool).mp registered
  rw [yields.definition_eq] at member ⊢
  obtain ⟨param, -, rfl⟩ := List.mem_map.mp member
  exact ⟨submission.function.descriptor, param, rfl, rfl⟩

/-- Values that the types named for a parameter admit are held to the first of these types. -/
theorem run_holdsToFirstTypes (requests : List RegistryRequest) :
    HoldsToFirstTypes (empty.run requests) := by
  rintro _ types value ⟨registered, member, found, stated_eq, names⟩ _
  obtain ⟨descriptor, param, schema, rfl⟩ := exists_param_of_registered registered member
  rw [schema] at found
  have type_eq : (ParameterDefinition.of descriptor param).type =
      ((leading? types).bind paramType?).getD param.type := by
    have found : ParameterDefinition.property? descriptor.parametersSchema param.name = _ := found
    rw [← names.ofSchemaType?_eq, ParameterDefinition.of]
    simp only [found, Option.bind_some, stated_eq]
  have typed {first : SchemaType} (leads : leading? types = some first) :
      first.paramType? = some (ParameterDefinition.of descriptor param).type := by
    have notNull : first ≠ .null := by simpa using List.find?_some leads
    rw [type_eq, leads]
    cases first with
    | null => exact absurd rfl notNull
    | _ => rfl
  have accepts_iff : ∀ first, leading? types = some first →
      (first = .string ∨ ∀ text, value ≠ .string text) →
        ((ParameterDefinition.of descriptor param).Accepts value ↔
          first.Fits value ∨ first = .string ∧ value.IsWritten) := by
    intro first leads noText
    rw [ParameterDefinition.accepts_iff, isSome_convert?_iff (typed leads) noText]
  refine ⟨?_, accepts_iff, ?_⟩
  · intro first leads fits
    refine (accepts_iff first leads ?_).mpr (.inl fits)
    -- A text is admitted by no other type than that of texts.
    cases first with
    | string => exact .inl rfl
    | _ =>
        refine .inr ?_
        rintro text rfl
        cases fits.1
  · rintro rfl
    cases leads : leading? types with
    | some first =>
        rw [accepts_iff first leads (.inr nofun)]
        have notNull : first ≠ .null := by simpa using List.find?_some leads
        cases first with
        | null => exact absurd rfl notNull
        | _ => simp [Fits, admits, Json.IsWritten]
    | none =>
        rw [ParameterDefinition.accepts_iff]
        cases (ParameterDefinition.of descriptor param).type <;> simp [convert?]

end ToolRegistry

/-- The double `2 ^ 64`. -/
def doubleBeyondRange : Double :=
  ⟨false, Nat.pow 2 52, 1086, by decide⟩

/-- A tool with a parameter that may be null, one of two types, and one of integers. -/
def noteTool : ToolFunction where
  descriptor :=
    { name := "note"
      shortDescription := ""
      longDescription := ""
      parametersSchema := .ofFields
        [("properties", .ofFields
          [("tag", .ofFields [("type", .array [.string "string", .string "null"])]),
           ("flag", .ofFields [("type", .array [.string "integer", .string "boolean"])]),
           ("size", .ofFields [("type", .string "integer")])])]
      parameterDocs := [] }
  params := [⟨"tag", .string, none⟩, ⟨"flag", .any, none⟩, ⟨"size", .integer, none⟩]
  handler args := .immediate (.returned args.toJson)

/-- Null, a value of another named type and a great double: each is admitted by the types that are
advertised for its parameter, and each is refused. -/
theorem not_acceptsAdvertised_note :
    let plugin : Plugin := ⟨fun _ => .succeeded, fun _ => [noteTool], fun _ => .succeeded⟩
    let registry := ToolRegistry.empty.run [.function ⟨.create "p" plugin, 0, noteTool⟩]
    let refused : List (String × List SchemaType × Json) :=
      [("tag", [.string, .null], .null), ("flag", [.integer, .boolean], .bool true),
        ("size", [.integer], .number (.double doubleBeyondRange))]
    ¬ AcceptsAdvertised registry ∧
      ∀ case ∈ refused, ∃ parameter, parameter.name = case.1 ∧
        Advertises registry parameter case.2.1 ∧
          (∃ type ∈ case.2.1, type.admits case.2.2 = true) ∧ ¬ parameter.Accepts case.2.2 := by
  intro plugin registry refused
  obtain ⟨schema, compiles⟩ :
      ∃ schema, CompiledSchema.ofJson noteTool.descriptor.parametersSchema = .ok schema :=
    ⟨_, rfl⟩
  let submission : Submission := ⟨.create "p" plugin, 0, noteTool⟩
  let tool : RegisteredTool := ⟨.of "p" noteTool, schema, noteTool.handler, 0⟩
  have yields : submission.Yields tool := ⟨by decide +kernel, compiles, rfl, rfl, rfl⟩
  have registered : registry.find? "note" = some tool :=
    (ToolRegistry.find?_filled_iff [submission] "note" tool).mpr
      ⟨submission, ⟨[], [], rfl, rfl, ⟨tool, yields⟩, by simp⟩, yields⟩
  have advertises {param : ParamSpec} {property stated : Json} {types : List SchemaType}
      (member : param ∈ noteTool.params)
      (found : ParameterDefinition.property? noteTool.descriptor.parametersSchema param.name =
        some property)
      (stated_eq : property.get? "type" = some stated) (names : NamesTypes stated types) :
      Advertises registry (.of noteTool.descriptor param) types :=
    .intro registered (List.mem_map_of_mem member) found stated_eq names
  have refusals : ∀ case ∈ refused, ∃ parameter, parameter.name = case.1 ∧
      Advertises registry parameter case.2.1 ∧
        (∃ type ∈ case.2.1, type.admits case.2.2 = true) ∧ ¬ parameter.Accepts case.2.2 := by
    simp only [refused, List.forall_mem_cons, List.not_mem_nil, false_implies, implies_true,
      and_true]
    refine ⟨⟨_, rfl, advertises (.head _) rfl rfl (.several [.string, .null]),
        ⟨.null, by simp, rfl⟩, ?_⟩,
      ⟨_, rfl, advertises (.tail _ (.head _)) rfl rfl (.several [.integer, .boolean]),
        ⟨.boolean, by simp, rfl⟩, ?_⟩,
      ⟨_, rfl, advertises (.tail _ (.tail _ (.head _))) rfl rfl (.one .integer),
        ⟨.integer, by simp, by decide +kernel⟩, ?_⟩⟩
    all_goals
      rw [ParameterDefinition.accepts_iff]
      decide +kernel
  refine ⟨?_, refusals⟩
  intro all
  obtain ⟨parameter, -, advertised, admitted, refused⟩ := refusals _ (.head _)
  exact refused (all parameter _ _ advertised admitted)

end PluginHost
