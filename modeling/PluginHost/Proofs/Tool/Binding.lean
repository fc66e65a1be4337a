import PluginHost.Tool.Binding

/-!
# Arguments and the parameters that take them

Binding is a loop over the parameters that uses up the supplied arguments.  Seen from one
parameter it is a rule: the parameter gets the argument of its name unless an earlier parameter
of that name has taken it, and it either offends or comes to a value.  The loop fails with the
first offence in declaration order, and otherwise every parameter is bound to its value.
-/

namespace PluginHost

namespace ParameterDefinition

/-- The error of a parameter that cannot do with its argument: it is of another type, or there
is none and nothing stands in for it. -/
def offence? (parameter : ParameterDefinition) : Option Json → Option HostError
  | some value =>
    if (Coercion.convert? parameter.type value).isSome then none
    else some (.invalidArgument
      s!"parameter `{parameter.name}` must be of type {parameter.type.name}")
  | none =>
    if parameter.default.isNone && parameter.required then
      some (.invalidArgument s!"Missing required parameter: {parameter.name}")
    else none

/-- The value to which a parameter is bound: its converted argument, else its default, else
null. -/
def value (parameter : ParameterDefinition) : Option Json → Json
  | some argument => (Coercion.convert? parameter.type argument).getD .null
  | none => parameter.default.getD .null

/-- Whether a parameter is bound to null because nothing was said about it. -/
def isOmitted (parameter : ParameterDefinition) (argument : Option Json) : Bool :=
  argument.isNone && parameter.default.isNone

/-- The argument that a parameter gets when earlier parameters have taken theirs. -/
def argumentAfter (parameter : ParameterDefinition) (earlier : List ParameterDefinition)
    (supplied : JsonFields) : Option Json :=
  if parameter.name ∈ earlier.map name then none else KeyedList.get? parameter.name supplied

theorem argumentAfter_nil (parameter : ParameterDefinition) (supplied : JsonFields) :
    parameter.argumentAfter [] supplied = KeyedList.get? parameter.name supplied := by
  simp [argumentAfter]

/-- A first parameter takes its argument away from the later ones. -/
theorem argumentAfter_cons (parameter first : ParameterDefinition)
    (earlier : List ParameterDefinition) (supplied : JsonFields) :
    parameter.argumentAfter (first :: earlier) supplied =
      parameter.argumentAfter earlier (KeyedList.erase first.name supplied) := by
  rw [argumentAfter, argumentAfter, KeyedList.get?_erase, List.map_cons]
  by_cases same : first.name = parameter.name
  · simp [same]
  · have apart : ¬ parameter.name = first.name := fun equal => same equal.symm
    simp [same, apart]

/-- None of the parameters offends. -/
def Inoffensive (parameters : List ParameterDefinition) (supplied : JsonFields) : Prop :=
  ∀ earlier parameter later, parameters = earlier ++ parameter :: later →
    parameter.offence? (parameter.argumentAfter earlier supplied) = none

/-- An error is that of the first parameter that offends. -/
inductive FirstOffence (supplied : JsonFields) (error : HostError) :
    List ParameterDefinition → Prop
  | intro {earlier later : List ParameterDefinition} {parameter : ParameterDefinition}
      (before : Inoffensive earlier supplied)
      (offends : parameter.offence? (parameter.argumentAfter earlier supplied) = some error) :
      FirstOffence supplied error (earlier ++ parameter :: later)

theorem exists_message_of_offence {parameter : ParameterDefinition}
    {argument : Option Json} {error : HostError}
    (offends : parameter.offence? argument = some error) :
    ∃ message, error = .invalidArgument message := by
  cases argument with
  | some given =>
      rw [offence?] at offends
      split at offends
      · cases offends
      · exact ⟨_, (Option.some.inj offends).symm⟩
  | none =>
      rw [offence?] at offends
      split at offends
      · exact ⟨_, (Option.some.inj offends).symm⟩
      · cases offends

theorem FirstOffence.exists_message {parameters : List ParameterDefinition}
    {supplied : JsonFields} {error : HostError}
    (offence : FirstOffence supplied error parameters) :
    ∃ message, error = .invalidArgument message := by
  obtain ⟨-, offends⟩ := offence
  exact exists_message_of_offence offends

/-- Among parameters of distinct names each gets the argument of its name. -/
theorem argumentAfter_of_nodup {earlier later : List ParameterDefinition}
    {parameter : ParameterDefinition}
    (distinct : ((earlier ++ parameter :: later).map name).Nodup) (supplied : JsonFields) :
    parameter.argumentAfter earlier supplied = KeyedList.get? parameter.name supplied := by
  rw [List.map_append, List.map_cons] at distinct
  have untaken : parameter.name ∉ earlier.map name := by
    intro taken
    exact (List.nodup_append.mp distinct).2.2 _ taken _ List.mem_cons_self rfl
  rw [argumentAfter, if_neg untaken]

theorem Inoffensive.offence?_eq_none {parameters : List ParameterDefinition}
    {supplied : JsonFields} (inoffensive : Inoffensive parameters supplied)
    (distinct : (parameters.map name).Nodup) {parameter : ParameterDefinition}
    (member : parameter ∈ parameters) :
    parameter.offence? (KeyedList.get? parameter.name supplied) = none := by
  obtain ⟨earlier, later, rfl⟩ := List.append_of_mem member
  rw [← argumentAfter_of_nodup distinct supplied]
  exact inoffensive earlier parameter later rfl

/-- A parameter that does not offend when it is omitted is optional. -/
theorem required_eq_false_of_isOmitted {parameter : ParameterDefinition}
    {argument : Option Json} (inoffensive : parameter.offence? argument = none)
    (omitted : parameter.isOmitted argument = true) :
    argument = none ∧ parameter.default = none ∧ parameter.required = false := by
  obtain ⟨rfl, noDefault⟩ : argument = none ∧ parameter.default = none := by
    simpa [isOmitted] using omitted
  refine ⟨rfl, noDefault, ?_⟩
  cases required : parameter.required with
  | false => rfl
  | true => simp [offence?, noDefault, required] at inoffensive

theorem inoffensive_nil (supplied : JsonFields) : Inoffensive [] supplied := by
  intro earlier parameter later split
  simp at split

theorem inoffensive_cons (first : ParameterDefinition) (rest : List ParameterDefinition)
    (supplied : JsonFields) :
    Inoffensive (first :: rest) supplied ↔
      first.offence? (KeyedList.get? first.name supplied) = none ∧
        Inoffensive rest (KeyedList.erase first.name supplied) := by
  constructor
  · intro inoffensive
    constructor
    · have atFirst := inoffensive [] first rest rfl
      rwa [argumentAfter_nil] at atFirst
    · rintro earlier parameter later rfl
      have atLater := inoffensive (first :: earlier) parameter later rfl
      rwa [argumentAfter_cons] at atLater
  · rintro ⟨atFirst, atRest⟩ earlier parameter later split
    rcases List.cons_eq_append_iff.mp split with ⟨rfl, here⟩ | ⟨front, rfl, later⟩
    · obtain ⟨rfl, rfl⟩ := List.cons.inj here
      rwa [argumentAfter_nil]
    · rw [argumentAfter_cons]
      exact atRest front parameter _ later

theorem firstOffence_cons (first : ParameterDefinition) (rest : List ParameterDefinition)
    (supplied : JsonFields) (error : HostError) :
    FirstOffence supplied error (first :: rest) ↔
      first.offence? (KeyedList.get? first.name supplied) = some error ∨
        first.offence? (KeyedList.get? first.name supplied) = none ∧
          FirstOffence (KeyedList.erase first.name supplied) error rest := by
  constructor
  · intro offence
    generalize whole : first :: rest = parameters at offence
    obtain @⟨earlier, later, parameter, before, offends⟩ := offence
    rcases List.cons_eq_append_iff.mp whole with ⟨rfl, here⟩ | ⟨front, rfl, rfl⟩
    · obtain ⟨rfl, rfl⟩ := List.cons.inj here
      rw [argumentAfter_nil] at offends
      exact .inl offends
    · rw [inoffensive_cons] at before
      rw [argumentAfter_cons] at offends
      exact .inr ⟨before.1, .intro before.2 offends⟩
  · rintro (offends | ⟨atFirst, ⟨before, offends⟩⟩)
    · rw [← argumentAfter_nil] at offends
      have offence : FirstOffence supplied error ([] ++ first :: rest) :=
        .intro (inoffensive_nil supplied) offends
      exact offence
    · rw [← argumentAfter_cons] at offends
      exact .intro ((inoffensive_cons _ _ _).mpr ⟨atFirst, before⟩) offends

/-- Either no parameter offends or one is the first to do so. -/
theorem inoffensive_or_firstOffence (parameters : List ParameterDefinition)
    (supplied : JsonFields) :
    Inoffensive parameters supplied ∨ ∃ error, FirstOffence supplied error parameters := by
  induction parameters generalizing supplied with
  | nil => exact .inl (inoffensive_nil supplied)
  | cons first rest ih =>
      cases offends : first.offence? (KeyedList.get? first.name supplied) with
      | some error => exact .inr ⟨error, (firstOffence_cons _ _ _ _).mpr (.inl offends)⟩
      | none =>
          rcases ih (KeyedList.erase first.name supplied) with inoffensive | ⟨error, offence⟩
          · exact .inl ((inoffensive_cons _ _ _).mpr ⟨offends, inoffensive⟩)
          · exact .inr ⟨error, (firstOffence_cons _ _ _ _).mpr (.inr ⟨offends, offence⟩)⟩

end ParameterDefinition

namespace BoundArguments

open ParameterDefinition

/-- The arguments with one more parameter bound to its value. -/
def bindValue (parameter : ParameterDefinition) (argument : Option Json)
    (arguments : BoundArguments) : BoundArguments :=
  if parameter.isOmitted argument then arguments.bindOmitted parameter.name
  else arguments.bind parameter.name (parameter.value argument)

theorem bindParameter_of_offence {parameter : ParameterDefinition} {argument : Option Json}
    {error : HostError} (offends : parameter.offence? argument = some error)
    (arguments : BoundArguments) :
    bindParameter parameter argument arguments = .error error := by
  cases argument with
  | some given =>
      cases converted : Coercion.convert? parameter.type given with
      | some result => simp [offence?, converted] at offends
      | none =>
          simp only [offence?, converted, Option.isSome_none, Bool.false_eq_true, if_false,
            Option.some.injEq] at offends
          simp only [bindParameter, coerce, converted]
          exact congrArg Except.error offends
  | none =>
      cases default : parameter.default with
      | some fallback => simp [offence?, default] at offends
      | none =>
          cases required : parameter.required with
          | false => simp [offence?, required] at offends
          | true =>
              simp only [offence?, default, required, Option.isNone_none, Bool.and_self, if_true,
                Option.some.injEq] at offends
              simp only [bindParameter, default, required, if_true]
              exact congrArg Except.error offends

theorem bindParameter_of_inoffensive {parameter : ParameterDefinition} {argument : Option Json}
    (inoffensive : parameter.offence? argument = none) (arguments : BoundArguments) :
    bindParameter parameter argument arguments = .ok (arguments.bindValue parameter argument) := by
  cases argument with
  | some given =>
      cases converted : Coercion.convert? parameter.type given with
      | none => simp [offence?, converted] at inoffensive
      | some result =>
          simp [bindParameter, coerce, converted, bindValue, isOmitted, value, Except.map]
  | none =>
      cases default : parameter.default with
      | some fallback => simp [bindParameter, default, bindValue, isOmitted, value]
      | none =>
          cases required : parameter.required with
          | true => simp [offence?, default, required] at inoffensive
          | false => simp [bindParameter, default, required, bindValue, isOmitted]

/-- The arguments with all parameters bound to their values. -/
def bindValues : List ParameterDefinition → JsonFields → BoundArguments → BoundArguments
  | [], _, arguments => arguments
  | parameter :: rest, supplied, arguments =>
    bindValues rest (KeyedList.erase parameter.name supplied)
      (arguments.bindValue parameter (KeyedList.get? parameter.name supplied))

theorem bindOnto_of_firstOffence {parameters : List ParameterDefinition}
    {supplied : JsonFields} {error : HostError}
    (offence : FirstOffence supplied error parameters) (arguments : BoundArguments) :
    bindOnto parameters supplied arguments = .error error := by
  induction parameters generalizing supplied arguments with
  | nil =>
      generalize none : [] = parameters at offence
      cases offence
      simp at none
  | cons first rest ih =>
      rw [bindOnto]
      rcases (firstOffence_cons _ _ _ _).mp offence with offends | ⟨atFirst, later⟩
      · rw [bindParameter_of_offence offends]
      · rw [bindParameter_of_inoffensive atFirst]
        exact ih later _

theorem bindOnto_of_inoffensive {parameters : List ParameterDefinition} {supplied : JsonFields}
    (inoffensive : Inoffensive parameters supplied) (arguments : BoundArguments) :
    bindOnto parameters supplied arguments =
      .ok (bindValues parameters supplied arguments) := by
  induction parameters generalizing supplied arguments with
  | nil => rfl
  | cons first rest ih =>
      obtain ⟨atFirst, atRest⟩ := (inoffensive_cons _ _ _).mp inoffensive
      rw [bindOnto, bindParameter_of_inoffensive atFirst]
      exact ih atRest _

/-- Binding fails with the first offence in declaration order. -/
theorem ofSupplied_eq_error_iff (parameters : List ParameterDefinition) (supplied : JsonFields)
    (error : HostError) :
    ofSupplied parameters supplied = .error error ↔ FirstOffence supplied error parameters := by
  rw [ofSupplied]
  constructor
  · intro failed
    rcases inoffensive_or_firstOffence parameters supplied with inoffensive | ⟨first, offence⟩
    · rw [bindOnto_of_inoffensive inoffensive] at failed
      cases failed
    · rw [bindOnto_of_firstOffence offence] at failed
      cases failed
      exact offence
  · intro offence
    exact bindOnto_of_firstOffence offence empty

/-- Binding succeeds if no parameter offends, and binds every parameter to its value. -/
theorem ofSupplied_eq_ok_iff (parameters : List ParameterDefinition) (supplied : JsonFields)
    (arguments : BoundArguments) :
    ofSupplied parameters supplied = .ok arguments ↔
      Inoffensive parameters supplied ∧ bindValues parameters supplied empty = arguments := by
  rw [ofSupplied]
  constructor
  · intro succeeded
    rcases inoffensive_or_firstOffence parameters supplied with inoffensive | ⟨first, offence⟩
    · rw [bindOnto_of_inoffensive inoffensive] at succeeded
      exact ⟨inoffensive, Except.ok.inj succeeded⟩
    · rw [bindOnto_of_firstOffence offence] at succeeded
      cases succeeded
  · rintro ⟨inoffensive, rfl⟩
    exact bindOnto_of_inoffensive inoffensive empty

/-! ### Bound and checked values -/

theorem get?_bound_bindValue (parameter : ParameterDefinition) (argument : Option Json)
    (arguments : BoundArguments) (key : String) :
    KeyedList.get? key (arguments.bindValue parameter argument).bound =
      if parameter.name = key then some (parameter.value argument)
      else KeyedList.get? key arguments.bound := by
  rw [bindValue]
  split
  case isTrue omitted =>
    obtain ⟨rfl, noDefault⟩ : argument = none ∧ parameter.default = none := by
      simpa [isOmitted] using omitted
    rw [bindOmitted, KeyedList.get?_insert]
    simp [value, noDefault]
  case isFalse => rw [bind, KeyedList.get?_insert]

theorem get?_checked_bindValue (parameter : ParameterDefinition) (argument : Option Json)
    (arguments : BoundArguments) (key : String) :
    KeyedList.get? key (arguments.bindValue parameter argument).checked =
      if parameter.name = key ∧ parameter.isOmitted argument = false then
        some (parameter.value argument)
      else KeyedList.get? key arguments.checked := by
  rw [bindValue]
  cases omitted : parameter.isOmitted argument with
  | true => simp [bindOmitted]
  | false => simp [bind, KeyedList.get?_insert]

/-- Binding touches no keys but the names of the parameters. -/
theorem get?_bindValues_of_not_mem {parameters : List ParameterDefinition} {key : String}
    (foreign : key ∉ parameters.map name) (supplied : JsonFields) (arguments : BoundArguments) :
    KeyedList.get? key (bindValues parameters supplied arguments).bound =
        KeyedList.get? key arguments.bound ∧
      KeyedList.get? key (bindValues parameters supplied arguments).checked =
        KeyedList.get? key arguments.checked := by
  induction parameters generalizing supplied arguments with
  | nil => exact ⟨rfl, rfl⟩
  | cons first rest ih =>
      rw [List.map_cons, List.mem_cons, not_or] at foreign
      obtain ⟨bound, checked⟩ := ih foreign.2 (KeyedList.erase first.name supplied)
        (arguments.bindValue first (KeyedList.get? first.name supplied))
      have apart : ¬ first.name = key := fun same => foreign.1 same.symm
      rw [bindValues, bound, checked, get?_bound_bindValue, get?_checked_bindValue]
      simp [apart]

/-- Where the names of the parameters are distinct, each parameter is bound to the value that
its own argument gives it, and the schema gets to see it unless it was omitted. -/
theorem get?_bindValues_of_mem {parameters : List ParameterDefinition}
    (distinct : (parameters.map name).Nodup) {parameter : ParameterDefinition}
    (member : parameter ∈ parameters) (supplied : JsonFields) (arguments : BoundArguments) :
    KeyedList.get? parameter.name (bindValues parameters supplied arguments).bound =
        some (parameter.value (KeyedList.get? parameter.name supplied)) ∧
      KeyedList.get? parameter.name (bindValues parameters supplied arguments).checked =
        if parameter.isOmitted (KeyedList.get? parameter.name supplied) then
          KeyedList.get? parameter.name arguments.checked
        else some (parameter.value (KeyedList.get? parameter.name supplied)) := by
  induction parameters generalizing supplied arguments with
  | nil => simp at member
  | cons first rest ih =>
      rw [List.map_cons, List.nodup_cons] at distinct
      rw [bindValues]
      rcases List.mem_cons.mp member with rfl | later
      · obtain ⟨bound, checked⟩ := get?_bindValues_of_not_mem distinct.1
          (KeyedList.erase parameter.name supplied)
          (arguments.bindValue parameter (KeyedList.get? parameter.name supplied))
        rw [bound, checked, get?_bound_bindValue, get?_checked_bindValue]
        cases parameter.isOmitted (KeyedList.get? parameter.name supplied) <;> simp
      · have apart : ¬ first.name = parameter.name := by
          intro same
          exact distinct.1 (same ▸ List.mem_map_of_mem later)
        obtain ⟨bound, checked⟩ := ih distinct.2 later (KeyedList.erase first.name supplied)
          (arguments.bindValue first (KeyedList.get? first.name supplied))
        rw [bound, checked, KeyedList.get?_erase, get?_checked_bindValue]
        simp [apart]

end BoundArguments

end PluginHost
