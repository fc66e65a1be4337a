import PluginHost.Proofs.Tool.BindingByName
import PluginHost.Proofs.Tool.Preparation

/-!
# Arguments that come to the same

Binding looks at what is supplied under the names of the parameters and at nothing else.  Calls
whose arguments agree there take the same course, whatever else they supply.  Where a default is
fit to be supplied, a call takes the same course as well whether it supplies the default or leaves
the argument out.
-/

namespace PluginHost

namespace BoundArguments

open ParameterDefinition KeyedList

variable {parameters : List ParameterDefinition} {parameter : ParameterDefinition}
  {argument default : Json}

/-- Binding is told nothing by what is supplied under other names. -/
theorem bindOnto_congr {left right : JsonFields} (agree : AgreeOn (parameters.map name) left right)
    (arguments : BoundArguments) :
    bindOnto parameters left arguments = bindOnto parameters right arguments := by
  induction parameters generalizing left right arguments with
  | nil => rfl
  | cons first rest ih =>
      rw [bindOnto, bindOnto, agree first.name List.mem_cons_self]
      cases bindParameter first (get? first.name right) arguments with
      | error error => rfl
      | ok next => exact ih (agree.tail.erase first.name) next

theorem ofSupplied_congr {left right : JsonFields}
    (agree : AgreeOn (parameters.map name) left right) :
    ofSupplied parameters left = ofSupplied parameters right :=
  bindOnto_congr agree empty

theorem get?_eq_none_of_foreign {supplied : JsonFields} {arguments : BoundArguments}
    (bound : ofSupplied parameters supplied = .ok arguments) {key : String}
    (foreign : key ∉ parameters.map name) :
    get? key arguments.bound = none ∧ get? key arguments.checked = none := by
  obtain ⟨-, rfl⟩ := (ofSupplied_eq_ok_iff parameters supplied arguments).mp bound
  exact get?_bindValues_of_not_mem foreign supplied empty

theorem bindParameter_of_coerced_default (stated : parameter.default = some default)
    (coerces : coerce parameter.name parameter.type argument = .ok default)
    (arguments : BoundArguments) :
    bindParameter parameter (some argument) arguments = bindParameter parameter none arguments := by
  simp only [bindParameter, stated, coerces, Except.map]

/-- An argument may be left out where its parameter has a default to which it is coerced. -/
theorem bindOnto_insert_of_coerced_default (distinct : (parameters.map name).Nodup)
    (member : parameter ∈ parameters) (stated : parameter.default = some default)
    (coerces : coerce parameter.name parameter.type argument = .ok default)
    {supplied : JsonFields} (omitted : get? parameter.name supplied = none)
    (arguments : BoundArguments) :
    bindOnto parameters (KeyedList.insert parameter.name argument supplied) arguments =
      bindOnto parameters supplied arguments := by
  induction parameters generalizing supplied arguments with
  | nil => cases member
  | cons first rest ih =>
      rw [List.map_cons, List.nodup_cons] at distinct
      rw [bindOnto, bindOnto, get?_insert]
      rcases List.mem_cons.mp member with rfl | later
      · -- The parameter takes the argument away, and the others find the same in both.
        rw [if_pos rfl, omitted, bindParameter_of_coerced_default stated coerces]
        cases bindParameter parameter none arguments with
        | error error => rfl
        | ok next => exact bindOnto_congr (agreeOn_erase_insert _ _ _ _) next
      · have apart : parameter.name ≠ first.name := fun same =>
          distinct.1 (same ▸ List.mem_map_of_mem later)
        have stillOmitted : get? parameter.name (KeyedList.erase first.name supplied) = none := by
          rw [get?_erase, if_neg apart.symm, omitted]
        rw [if_neg apart]
        cases bindParameter first (get? first.name supplied) arguments with
        | error error => rfl
        | ok next =>
            dsimp only
            rw [bindOnto_congr (agreeOn_erase_insert_of_ne _ apart argument supplied),
              ih distinct.2 later stillOmitted]

end BoundArguments

/-- Two ways of supplying arguments to a tool between which nothing can be told: the same error
comes of both, or the same call is put to the handler and the same is made of it. -/
structure SameCourse (registry : ToolRegistry) (handles : Handles) (name : String)
    (left right : Json) : Prop where
  prepared : registry.prepare handles name left = registry.prepare handles name right
  started : registry.start handles name left = registry.start handles name right
  awaited : registry.invoke handles name left = registry.invoke handles name right
  limited : ∀ limit, registry.invokeWithin handles name left limit =
    registry.invokeWithin handles name right limit

namespace ToolRegistry

variable {registry : ToolRegistry} {handles : Handles} {name : String}

theorem sameCourse_of_prepare {left right : Json}
    (prepared : registry.prepare handles name left = registry.prepare handles name right) :
    SameCourse registry handles name left right where
  prepared := prepared
  started := by rw [start, start, prepared]
  awaited := by rw [invoke, invoke, prepared]
  limited := by
    intro limit
    rw [invokeWithin, invokeWithin, prepared]

theorem prepare_congr {left right : JsonFields}
    (binds : ∀ tool, registry.find? name = some tool →
      BoundArguments.ofSupplied tool.definition.parameters left =
        BoundArguments.ofSupplied tool.definition.parameters right) :
    registry.prepare handles name (.object left) =
      registry.prepare handles name (.object right) := by
  rw [prepare, prepare]
  cases registered : registry.find? name with
  | none => rfl
  | some tool => simp only [supplied, binds tool registered]

end ToolRegistry

/-- How little a tool learns of what is supplied to it. -/
structure IndifferentToUndeclared (registry : ToolRegistry) (handles : Handles) (name : String) :
    Prop where
  /-- Arguments that agree on the names of the parameters are as good as each other, whatever the
  schema says about other names. -/
  agreeing : ∀ left right : JsonFields,
    (∀ tool, registry.find? name = some tool →
      KeyedList.AgreeOn (tool.definition.parameters.map ParameterDefinition.name) left right) →
      SameCourse registry handles name (.object left) (.object right)
  /-- What is supplied under other names can as well be left out. -/
  trimmed : ∀ tool, registry.find? name = some tool → ∀ fields : JsonFields,
    SameCourse registry handles name (.object fields)
      (.object (fields.filter fun entry =>
        (tool.definition.parameters.map ParameterDefinition.name).contains entry.1))
  /-- Neither the handler nor the schema gets to see anything under another name. -/
  unseen : ∀ tool, registry.find? name = some tool → ∀ fields arguments,
    BoundArguments.ofSupplied tool.definition.parameters fields = .ok arguments →
      ∀ key ∉ tool.definition.parameters.map ParameterDefinition.name,
        KeyedList.get? key arguments.bound = none ∧ KeyedList.get? key arguments.checked = none
  /-- Null supplies nothing. -/
  null : SameCourse registry handles name .null (.object [])

namespace ToolRegistry

/-- What is not declared has no influence on a call, be it on an error, on the verdict of the schema
or on what the handler gets. -/
theorem prepare_indifferentToUndeclared (registry : ToolRegistry) (handles : Handles)
    (name : String) : IndifferentToUndeclared registry handles name := by
  have agreeing (left right : JsonFields)
      (agree : ∀ tool, registry.find? name = some tool →
        KeyedList.AgreeOn (tool.definition.parameters.map ParameterDefinition.name) left right) :
      SameCourse registry handles name (.object left) (.object right) :=
    sameCourse_of_prepare (prepare_congr fun tool registered =>
      BoundArguments.ofSupplied_congr (agree tool registered))
  constructor
  case agreeing => exact agreeing
  case trimmed =>
    intro tool registered fields
    refine agreeing _ _ fun other otherRegistered => ?_
    obtain rfl := Option.some.inj (registered.symm.trans otherRegistered)
    exact KeyedList.agreeOn_filter _ fields
  case unseen =>
    intro tool _ fields arguments bound key foreign
    exact BoundArguments.get?_eq_none_of_foreign bound foreign
  case null => exact sameCourse_of_prepare rfl

/-- An argument may be supplied as the default of its parameter or be left out, if coercion leaves
the default as it is. -/
theorem sameCourse_of_default {registry : ToolRegistry} (handles : Handles) {name : String}
    {tool : RegisteredTool} (registered : registry.find? name = some tool)
    (distinct : (tool.definition.parameters.map ParameterDefinition.name).Nodup)
    {parameter : ParameterDefinition} (member : parameter ∈ tool.definition.parameters)
    {default : Json} (stated : parameter.default = some default)
    (unchanged : coerce parameter.name parameter.type default = .ok default)
    {fields : JsonFields} (omitted : KeyedList.get? parameter.name fields = none) :
    SameCourse registry handles name (.object fields)
      (.object (KeyedList.insert parameter.name default fields)) := by
  refine sameCourse_of_prepare (prepare_congr fun other otherRegistered => ?_)
  obtain rfl := Option.some.inj (registered.symm.trans otherRegistered)
  exact (BoundArguments.bindOnto_insert_of_coerced_default distinct member stated unchanged
    omitted .empty).symm

/-- A size that is left out between a count that is coerced and a tag about which nothing is
said. -/
theorem sameCourse_of_default_size :
    let count : ParameterDefinition := ⟨"count", .integer, true, none, ""⟩
    let five : Json := .number (.integer 5 (by decide))
    let size : ParameterDefinition := ⟨"size", .integer, false, some five, ""⟩
    let tag : ParameterDefinition := ⟨"tag", .string, false, none, ""⟩
    let tool : RegisteredTool := ⟨⟨"t", "p", "", "", [count, size, tag], .null⟩,
      ⟨.anything, [], 1⟩, fun _ => .immediate (.returned .null), 0⟩
    let version : Version := .ofNumbers 1 0 0
    let plugin : Plugin := ⟨fun _ => .succeeded, fun _ => [], fun _ => .succeeded⟩
    let handles : Handles := [⟨"p", plugin, .active ⟨version, version, .null, none⟩⟩]
    let registry : ToolRegistry := ⟨[("t", tool)]⟩
    let fields : JsonFields := [("count", .string " 3 ")]
    registry.find? "t" = some tool ∧ (tool.definition.parameters.map (·.name)).Nodup ∧
      coerce "size" .integer five = .ok five ∧ KeyedList.get? "size" fields = none ∧
        SameCourse registry handles "t" (.object fields)
          (.object (KeyedList.insert "size" five fields)) ∧
        ∃ call, registry.prepare handles "t" (.object fields) = .ok call ∧
          call.args.raw? "size" = some five := by
  intro count five size tag tool version plugin handles registry fields
  have registered : registry.find? "t" = some tool := rfl
  have distinct : (tool.definition.parameters.map (·.name)).Nodup := by decide
  have among : size ∈ [count, size, tag] := List.mem_cons_of_mem _ List.mem_cons_self
  have unchanged : coerce size.name size.type five = .ok five := rfl
  have omitted : KeyedList.get? size.name fields = none := rfl
  have same := sameCourse_of_default handles registered distinct among rfl unchanged omitted
  obtain ⟨arguments, bound⟩ :
      ∃ arguments, BoundArguments.ofSupplied [count, size, tag] fields = .ok arguments :=
    ⟨_, rfl⟩
  have sizeBound := (BoundArguments.get?_bound_iff distinct bound among five).mpr
    (.default omitted rfl)
  let passing : PassingCall registry handles "t" (.object fields) :=
    ⟨tool, fields, arguments, registered, rfl, .object fields, bound, rfl⟩
  exact ⟨registered, distinct, unchanged, omitted, same, _, passing.prepare_eq, sizeBound⟩

end ToolRegistry

end PluginHost
