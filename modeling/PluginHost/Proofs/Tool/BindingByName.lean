import PluginHost.Proofs.KeyedList
import PluginHost.Proofs.Tool.Binding

/-!
# Binding by the names of parameters

Where no two parameters have the same name, what becomes of a parameter depends on the argument of
its name and on no other parameter.  Binding succeeds if every parameter can do with what is
supplied to it, and then has one entry for each name; else the first parameter that cannot decides,
whatever parameters come after it.
-/

namespace PluginHost

namespace ParameterDefinition

variable {parameter : ParameterDefinition} {parameters : List ParameterDefinition}
  {supplied : JsonFields}

/-- The value to which supplied arguments bind a parameter. -/
inductive BoundTo (supplied : JsonFields) (parameter : ParameterDefinition) : Json → Prop where
  | coerced {argument value : Json}
      (given : KeyedList.get? parameter.name supplied = some argument)
      (coerces : coerce parameter.name parameter.type argument = .ok value) :
      BoundTo supplied parameter value
  | default {value : Json} (omitted : KeyedList.get? parameter.name supplied = none)
      (stated : parameter.default = some value) : BoundTo supplied parameter value
  | null (omitted : KeyedList.get? parameter.name supplied = none)
      (unstated : parameter.default = none) : BoundTo supplied parameter .null

/-- The error of a parameter that cannot do with what is supplied. -/
inductive Offends (supplied : JsonFields) (parameter : ParameterDefinition) : HostError → Prop where
  | coercion {argument : Json} {error : HostError}
      (given : KeyedList.get? parameter.name supplied = some argument)
      (refused : coerce parameter.name parameter.type argument = .error error) :
      Offends supplied parameter error
  | missing (omitted : KeyedList.get? parameter.name supplied = none)
      (unstated : parameter.default = none) (required : parameter.required = true) :
      Offends supplied parameter
        (.invalidArgument s!"Missing required parameter: {parameter.name}")

/-- The names of the parameters about which nothing is said, neither by the caller nor by a
default. -/
def omittedNames (parameters : List ParameterDefinition) (supplied : JsonFields) : List String :=
  (parameters.filter fun parameter =>
    (KeyedList.get? parameter.name supplied).isNone && parameter.default.isNone).map name

theorem offends_iff {error : HostError} :
    Offends supplied parameter error ↔
      parameter.offence? (KeyedList.get? parameter.name supplied) = some error := by
  constructor
  · rintro (⟨given, refused⟩ | ⟨omitted, unstated, required⟩)
    · rw [given, offence?]
      rw [coerce] at refused
      split at refused
      · cases refused
      · next unconverted =>
          cases refused
          simp [unconverted]
    · simp [omitted, offence?, unstated, required]
  · intro offends
    cases given : KeyedList.get? parameter.name supplied with
    | some argument =>
        refine .coercion given ?_
        rw [given, offence?] at offends
        split at offends
        · cases offends
        · next unconverted =>
            rw [coerce, Option.not_isSome_iff_eq_none.mp unconverted]
            exact congrArg Except.error (Option.some.inj offends)
    | none =>
        rw [given, offence?] at offends
        split at offends
        · next conditions =>
            obtain ⟨unstated, required⟩ : parameter.default = none ∧ parameter.required = true := by
              simpa using conditions
            cases offends
            exact .missing given unstated required
        · cases offends

theorem offence?_eq_none_iff :
    parameter.offence? (KeyedList.get? parameter.name supplied) = none ↔
      ∀ error, ¬ Offends supplied parameter error := by
  simp only [offends_iff, Option.eq_none_iff_forall_ne_some, ne_eq]

/-- A parameter does not offend if its argument is coerced to its type, or if it has none and can
do without. -/
theorem not_offends_iff :
    (∀ error, ¬ Offends supplied parameter error) ↔
      (∀ argument, KeyedList.get? parameter.name supplied = some argument →
        ∃ value, coerce parameter.name parameter.type argument = .ok value) ∧
      (parameter.required = true → parameter.default = none →
        ∃ argument, KeyedList.get? parameter.name supplied = some argument) := by
  constructor
  · intro inoffensive
    constructor
    · intro argument given
      cases coerces : coerce parameter.name parameter.type argument with
      | ok value => exact ⟨value, rfl⟩
      | error error => exact absurd (.coercion given coerces) (inoffensive error)
    · intro required unstated
      cases given : KeyedList.get? parameter.name supplied with
      | some argument => exact ⟨argument, rfl⟩
      | none => exact absurd (.missing given unstated required) (inoffensive _)
  · rintro ⟨coerces, given⟩ error (⟨found, refused⟩ | ⟨omitted, unstated, required⟩)
    · obtain ⟨value, coerced⟩ := coerces _ found
      cases coerced.symm.trans refused
    · obtain ⟨argument, found⟩ := given required unstated
      cases omitted.symm.trans found

/-- The value of a parameter that does not offend. -/
theorem boundTo_value
    (inoffensive : parameter.offence? (KeyedList.get? parameter.name supplied) = none) :
    BoundTo supplied parameter (parameter.value (KeyedList.get? parameter.name supplied)) := by
  cases given : KeyedList.get? parameter.name supplied with
  | some argument =>
      refine .coerced given ?_
      rw [given, offence?] at inoffensive
      cases converted : Coercion.convert? parameter.type argument with
      | none => simp [converted] at inoffensive
      | some value => simp [coerce, converted, ParameterDefinition.value]
  | none =>
      cases stated : parameter.default with
      | some value => exact .default given (by simp [ParameterDefinition.value, stated])
      | none =>
          rw [ParameterDefinition.value, stated]
          exact .null given stated

theorem BoundTo.value_eq {value : Json} (bound : BoundTo supplied parameter value) :
    parameter.value (KeyedList.get? parameter.name supplied) = value := by
  cases bound with
  | coerced given coerces =>
      rw [given, ParameterDefinition.value]
      rw [coerce] at coerces
      split at coerces
      · next converted => rw [converted, Option.getD_some, Except.ok.inj coerces]
      · cases coerces
  | default omitted stated => rw [omitted, ParameterDefinition.value, stated, Option.getD_some]
  | null omitted unstated => rw [omitted, ParameterDefinition.value, unstated, Option.getD_none]

theorem nodup_front {front back : List ParameterDefinition}
    (distinct : ((front ++ back).map name).Nodup) : (front.map name).Nodup := by
  rw [List.map_append] at distinct
  exact (List.nodup_append.mp distinct).1

theorem inoffensive_iff_of_nodup (distinct : (parameters.map name).Nodup) :
    Inoffensive parameters supplied ↔
      ∀ parameter ∈ parameters, ∀ error, ¬ Offends supplied parameter error := by
  simp only [← offence?_eq_none_iff]
  constructor
  · intro inoffensive parameter member
    exact inoffensive.offence?_eq_none distinct member
  · rintro each earlier parameter later rfl
    rw [argumentAfter_of_nodup distinct]
    exact each parameter (by simp)

theorem firstOffence_append {earlier : List ParameterDefinition} {error : HostError}
    (distinct : ((earlier ++ [parameter]).map name).Nodup)
    (before : ∀ other ∈ earlier, ∀ error, ¬ Offends supplied other error)
    (offends : Offends supplied parameter error) (later : List ParameterDefinition) :
    FirstOffence supplied error (earlier ++ parameter :: later) := by
  refine .intro ((inoffensive_iff_of_nodup (nodup_front distinct)).mpr before) ?_
  rw [argumentAfter_of_nodup distinct]
  exact offends_iff.mp offends

end ParameterDefinition

namespace BoundArguments

open ParameterDefinition

variable {parameters : List ParameterDefinition} {supplied : JsonFields}

/-! ### The entries -/

theorem sorted_bindValue {arguments : BoundArguments} (bound : KeyedList.Sorted arguments.bound)
    (checked : KeyedList.Sorted arguments.checked) (parameter : ParameterDefinition)
    (argument : Option Json) :
    KeyedList.Sorted (arguments.bindValue parameter argument).bound ∧
      KeyedList.Sorted (arguments.bindValue parameter argument).checked := by
  rw [bindValue]
  split
  · exact ⟨KeyedList.sorted_insert _ _ bound, checked⟩
  · exact ⟨KeyedList.sorted_insert _ _ bound, KeyedList.sorted_insert _ _ checked⟩

theorem sorted_bindValues {arguments : BoundArguments} (bound : KeyedList.Sorted arguments.bound)
    (checked : KeyedList.Sorted arguments.checked) (parameters : List ParameterDefinition)
    (supplied : JsonFields) :
    KeyedList.Sorted (bindValues parameters supplied arguments).bound ∧
      KeyedList.Sorted (bindValues parameters supplied arguments).checked := by
  induction parameters generalizing supplied arguments with
  | nil => exact ⟨bound, checked⟩
  | cons parameter rest ih =>
      obtain ⟨bound, checked⟩ := sorted_bindValue bound checked parameter
        (KeyedList.get? parameter.name supplied)
      exact ih bound checked _

/-- The keys of what is bound are the names of the parameters. -/
theorem mem_keys_bindValues (distinct : (parameters.map name).Nodup) (key : String) :
    key ∈ KeyedList.keys (bindValues parameters supplied empty).bound ↔
      key ∈ parameters.map name := by
  constructor
  · intro member
    by_contra foreign
    have absent := (get?_bindValues_of_not_mem foreign supplied empty).1
    exact (KeyedList.get?_eq_none_iff _ _).mp absent member
  · intro named
    obtain ⟨parameter, member, rfl⟩ := List.mem_map.mp named
    have found := (get?_bindValues_of_mem distinct member supplied empty).1
    by_contra absent
    cases ((KeyedList.get?_eq_none_iff _ _).mpr absent).symm.trans found

theorem mem_omittedNames_iff (distinct : (parameters.map name).Nodup)
    {parameter : ParameterDefinition} (member : parameter ∈ parameters) :
    parameter.name ∈ omittedNames parameters supplied ↔
      parameter.isOmitted (KeyedList.get? parameter.name supplied) = true := by
  rw [omittedNames, List.mem_map]
  constructor
  · rintro ⟨other, among, sameName⟩
    obtain ⟨otherMember, omitted⟩ := List.mem_filter.mp among
    obtain rfl := List.inj_on_of_nodup_map distinct otherMember member sameName
    exact omitted
  · intro omitted
    exact ⟨parameter, List.mem_filter.mpr ⟨member, omitted⟩, rfl⟩

/-- What the schema gets to see is what is bound, without what was omitted. -/
theorem checked_bindValues (distinct : (parameters.map name).Nodup) :
    (bindValues parameters supplied empty).checked =
      (bindValues parameters supplied empty).bound.filter fun entry =>
        !(omittedNames parameters supplied).contains entry.1 := by
  obtain ⟨bound, checked⟩ :=
    @sorted_bindValues empty .nil .nil parameters supplied
  refine KeyedList.Sorted.ext checked (bound.filter _) fun key => ?_
  rw [KeyedList.get?_filter fun key => !(omittedNames parameters supplied).contains key]
  by_cases named : key ∈ parameters.map name
  · obtain ⟨parameter, member, rfl⟩ := List.mem_map.mp named
    obtain ⟨boundValue, checkedValue⟩ := get?_bindValues_of_mem distinct member supplied empty
    rw [checkedValue, boundValue]
    cases omitted : parameter.isOmitted (KeyedList.get? parameter.name supplied) with
    | true =>
        have among := (mem_omittedNames_iff distinct member).mpr omitted
        simp [among, empty]
    | false =>
        have notAmong : parameter.name ∉ omittedNames parameters supplied := fun among => by
          simp [(mem_omittedNames_iff distinct member).mp among] at omitted
        simp [notAmong]
  · obtain ⟨boundValue, checkedValue⟩ := get?_bindValues_of_not_mem named supplied empty
    rw [checkedValue, boundValue]
    simp [empty]

end BoundArguments

open ParameterDefinition

/-- What binding comes to for parameters and supplied arguments, name by name. -/
structure BindsByName (parameters : List ParameterDefinition) (supplied : JsonFields) : Prop where
  /-- It succeeds if every supplied argument is coerced to the type of its parameter and every
  required parameter without a default is supplied. -/
  ok_iff : (∃ arguments, BoundArguments.ofSupplied parameters supplied = .ok arguments) ↔
    (∀ parameter ∈ parameters, ∀ argument,
      KeyedList.get? parameter.name supplied = some argument →
        ∃ value, coerce parameter.name parameter.type argument = .ok value) ∧
    (∀ parameter ∈ parameters, parameter.required = true → parameter.default = none →
      ∃ argument, KeyedList.get? parameter.name supplied = some argument)
  /-- Then the names of the parameters are the keys of what is bound. -/
  keys : ∀ arguments, BoundArguments.ofSupplied parameters supplied = .ok arguments →
    (KeyedList.keys arguments.bound).Perm (parameters.map name)
  /-- Each has its argument after coercion, else its default, else null. -/
  values : ∀ arguments, BoundArguments.ofSupplied parameters supplied = .ok arguments →
    ∀ parameter ∈ parameters, ∀ value,
      KeyedList.get? parameter.name arguments.bound = some value ↔ BoundTo supplied parameter value
  /-- The schema is asked about the same without the parameters about which nothing is said. -/
  checked : ∀ arguments, BoundArguments.ofSupplied parameters supplied = .ok arguments →
    arguments.checked = arguments.bound.filter fun entry =>
      !(omittedNames parameters supplied).contains entry.1
  /-- If it fails, the error is that of the first parameter in the order of declaration that
  offends. -/
  error_iff : ∀ error, BoundArguments.ofSupplied parameters supplied = .error error ↔
    ∃ earlier parameter later, parameters = earlier ++ parameter :: later ∧
      (∀ other ∈ earlier, ∀ error, ¬ Offends supplied other error) ∧
        Offends supplied parameter error
  /-- The parameters after that one make no difference. -/
  independent : ∀ earlier parameter later error, parameters = earlier ++ parameter :: later →
    (∀ other ∈ earlier, ∀ error, ¬ Offends supplied other error) →
      Offends supplied parameter error → ∀ others,
        BoundArguments.ofSupplied (earlier ++ parameter :: others) supplied = .error error

namespace BoundArguments

variable {parameters : List ParameterDefinition} {supplied : JsonFields}

theorem exists_ok_iff (distinct : (parameters.map name).Nodup) :
    (∃ arguments, ofSupplied parameters supplied = .ok arguments) ↔
      ∀ parameter ∈ parameters, ∀ error, ¬ Offends supplied parameter error := by
  rw [← inoffensive_iff_of_nodup distinct]
  simp only [ofSupplied_eq_ok_iff, exists_and_left, exists_eq', and_true]

theorem get?_bound_iff (distinct : (parameters.map name).Nodup) {arguments : BoundArguments}
    (bound : ofSupplied parameters supplied = .ok arguments) {parameter : ParameterDefinition}
    (member : parameter ∈ parameters) (value : Json) :
    KeyedList.get? parameter.name arguments.bound = some value ↔
      BoundTo supplied parameter value := by
  obtain ⟨inoffensive, rfl⟩ := (ofSupplied_eq_ok_iff parameters supplied arguments).mp bound
  have own := boundTo_value (inoffensive.offence?_eq_none distinct member)
  rw [(get?_bindValues_of_mem distinct member supplied empty).1, Option.some.injEq]
  exact ⟨fun same => same ▸ own, BoundTo.value_eq⟩

/-- What the schema gets to see of a parameter that was not omitted is what it is bound to. -/
theorem get?_checked_eq (distinct : (parameters.map name).Nodup) {arguments : BoundArguments}
    (bound : ofSupplied parameters supplied = .ok arguments) {parameter : ParameterDefinition}
    (member : parameter ∈ parameters)
    (notOmitted : parameter.isOmitted (KeyedList.get? parameter.name supplied) = false) :
    KeyedList.get? parameter.name arguments.checked =
      KeyedList.get? parameter.name arguments.bound := by
  obtain ⟨-, rfl⟩ := (ofSupplied_eq_ok_iff parameters supplied arguments).mp bound
  obtain ⟨boundValue, checkedValue⟩ := get?_bindValues_of_mem distinct member supplied empty
  rw [checkedValue, boundValue, notOmitted]
  rfl

theorem keys_bound_perm (distinct : (parameters.map name).Nodup) {arguments : BoundArguments}
    (bound : ofSupplied parameters supplied = .ok arguments) :
    (KeyedList.keys arguments.bound).Perm (parameters.map name) := by
  obtain ⟨-, rfl⟩ := (ofSupplied_eq_ok_iff parameters supplied arguments).mp bound
  have sorted := (@sorted_bindValues empty .nil .nil parameters supplied).1
  exact (List.perm_ext_iff_of_nodup sorted.nodup_keys distinct).mpr (mem_keys_bindValues distinct)

/-- Parameters with names of their own are bound by their names. -/
theorem ofSupplied_bindsByName (parameters : List ParameterDefinition) (supplied : JsonFields)
    (distinct : (parameters.map name).Nodup) : BindsByName parameters supplied where
  ok_iff := by
    rw [exists_ok_iff distinct]
    simp only [not_offends_iff]
    exact forall₂_and
  keys _ bound := keys_bound_perm distinct bound
  values _ bound _ member value := get?_bound_iff distinct bound member value
  checked arguments bound := by
    obtain ⟨-, rfl⟩ := (ofSupplied_eq_ok_iff parameters supplied arguments).mp bound
    exact checked_bindValues distinct
  error_iff error := by
    rw [ofSupplied_eq_error_iff]
    constructor
    · rintro @⟨earlier, later, parameter, before, offends⟩
      rw [argumentAfter_of_nodup distinct] at offends
      exact ⟨earlier, parameter, later, rfl,
        (inoffensive_iff_of_nodup (nodup_front distinct)).mp before, offends_iff.mpr offends⟩
    · rintro ⟨earlier, parameter, later, rfl, before, offends⟩
      rw [List.append_cons] at distinct
      exact firstOffence_append (nodup_front distinct) before offends later
  independent := by
    rintro earlier parameter later error rfl before offends others
    rw [List.append_cons] at distinct
    rw [ofSupplied_eq_error_iff]
    exact firstOffence_append (nodup_front distinct) before offends others

/-- A count that is given as a text, a size with a default, and a tag about which nothing is
said. -/
theorem ofSupplied_bindsByName_count :
    let count : ParameterDefinition := ⟨"count", .integer, true, none, ""⟩
    let size : ParameterDefinition := ⟨"size", .integer, false, some (.string "any"), ""⟩
    let tag : ParameterDefinition := ⟨"tag", .string, false, none, ""⟩
    let parameters := [count, size, tag]
    let supplied : JsonFields := [("count", .string " 5 "), ("other", .null)]
    (parameters.map name).Nodup ∧ BindsByName parameters supplied ∧
      ∃ arguments, ofSupplied parameters supplied = .ok arguments ∧
        KeyedList.get? "count" arguments.bound = some (.number (.integer 5 (by decide))) ∧
          KeyedList.get? "size" arguments.bound = some (.string "any") ∧
            KeyedList.get? "tag" arguments.bound = some .null ∧
              omittedNames parameters supplied = ["tag"] := by
  intro count size tag parameters supplied
  have distinct : (parameters.map name).Nodup := by decide
  have binds := ofSupplied_bindsByName parameters supplied distinct
  obtain ⟨arguments, bound⟩ : ∃ arguments, ofSupplied parameters supplied = .ok arguments :=
    ⟨_, rfl⟩
  have values := binds.values arguments bound
  exact ⟨distinct, binds, arguments, bound,
    (values count (by simp [parameters]) _).mpr (.coerced rfl rfl),
    (values size (by simp [parameters]) _).mpr (.default rfl rfl),
    (values tag (by simp [parameters]) _).mpr (.null rfl rfl), rfl⟩

end BoundArguments

end PluginHost
