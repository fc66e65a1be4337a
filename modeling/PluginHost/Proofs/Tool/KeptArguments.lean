import Mathlib.Data.List.Nodup
import Mathlib.Tactic.Choose
import PluginHost.Proofs.Schema.Wording
import PluginHost.Proofs.Tool.Binding
import PluginHost.Proofs.Tool.TypedValues

/-!
# Arguments that binding keeps

The first parameter of a name takes the argument that is supplied under it.  For a second one of the
same name nothing is left: it is reported missing, or its default or null takes the place of what
was bound.  An argument is kept where its name has one parameter, and all arguments are kept exactly
where no two parameters have the same name.
-/

namespace PluginHost

/-- The error of a parameter for which nothing is supplied and nothing stands in. -/
def HostError.missingParameter (name : String) : HostError :=
  .invalidArgument s!"Missing required parameter: {name}"

namespace HostError

theorem toList_missing (name : String) :
    (s!"Missing required parameter: {name}").toList =
      'M' :: ("issing required parameter: ".toList ++ name.toList) := by
  rw [String.toList_append]
  rfl

theorem missingParameter_inj {first second : String}
    (same : missingParameter first = missingParameter second) : first = second := by
  have texts := congrArg String.toList (HostError.invalidArgument.inj same)
  rw [toList_missing, toList_missing, List.cons.injEq] at texts
  exact String.toList_inj.mp (List.append_cancel_left texts.2)

theorem ne_missingParameter {message : String} (opens : OpensOtherwise message.toList)
    (name : String) : invalidArgument message ≠ missingParameter name := by
  intro same
  have texts := congrArg String.toList (HostError.invalidArgument.inj same)
  rw [toList_missing] at texts
  exact opens.not_missing _ texts

end HostError

namespace ParameterDefinition

variable {parameter : ParameterDefinition} {parameters earlier later : List ParameterDefinition}
  {supplied : JsonFields} {key : String}

theorem opensOtherwise_mistyped (name type : String) :
    OpensOtherwise (s!"parameter `{name}` must be of type {type}").toList := by
  have opens : OpensOtherwise "parameter `".toList := ⟨'p', _, rfl, by decide⟩
  simp only [toString, String.toList_append, List.append_assoc]
  exact opens.append _

theorem offence?_eq_missing {argument : Option Json}
    (offends : parameter.offence? argument = some (.missingParameter key)) :
    argument = none ∧ parameter.name = key := by
  cases argument with
  | some given =>
      rw [offence?] at offends
      split at offends
      · cases offends
      · have same := Option.some.inj offends
        exact absurd same (HostError.ne_missingParameter (opensOtherwise_mistyped _ _) key)
  | none =>
      rw [offence?] at offends
      split at offends
      · exact ⟨rfl, HostError.missingParameter_inj (Option.some.inj offends)⟩
      · cases offends

/-- A parameter is reported missing if nothing is supplied under its name, or if there is an earlier
parameter of the name. -/
theorem FirstOffence.of_missing
    (offence : FirstOffence supplied (.missingParameter key) parameters) :
    ∃ earlier parameter later, parameters = earlier ++ parameter :: later ∧ parameter.name = key ∧
      (key ∈ earlier.map name ∨ KeyedList.get? key supplied = none) := by
  obtain @⟨earlier, later, parameter, -, offends⟩ := offence
  obtain ⟨omitted, rfl⟩ := offence?_eq_missing offends
  refine ⟨earlier, parameter, later, rfl, rfl, ?_⟩
  rw [argumentAfter] at omitted
  split at omitted
  · next taken => exact .inl taken
  · exact .inr omitted

end ParameterDefinition

namespace BoundArguments

open ParameterDefinition

variable {parameter : ParameterDefinition} {parameters earlier later : List ParameterDefinition}
  {supplied : JsonFields} {key : String} {argument : Json}

/-- The last parameter of a name decides what is bound to it, and what the schema gets to see unless
it is omitted. -/
theorem get?_bindValues_last (last : parameter.name ∉ later.map name)
    (earlier : List ParameterDefinition) (supplied : JsonFields) (arguments : BoundArguments) :
    KeyedList.get? parameter.name
        (bindValues (earlier ++ parameter :: later) supplied arguments).bound =
      some (parameter.value (parameter.argumentAfter earlier supplied)) ∧
    (parameter.isOmitted (parameter.argumentAfter earlier supplied) = false →
      KeyedList.get? parameter.name
          (bindValues (earlier ++ parameter :: later) supplied arguments).checked =
        some (parameter.value (parameter.argumentAfter earlier supplied))) := by
  induction earlier generalizing supplied arguments with
  | nil =>
      obtain ⟨bound, checked⟩ := get?_bindValues_of_not_mem last
        (KeyedList.erase parameter.name supplied)
        (arguments.bindValue parameter (KeyedList.get? parameter.name supplied))
      rw [List.nil_append, bindValues, bound, checked, get?_bound_bindValue,
        get?_checked_bindValue, argumentAfter_nil]
      exact ⟨if_pos rfl, fun given => if_pos ⟨rfl, given⟩⟩
  | cons first earlier ih =>
      rw [List.cons_append, bindValues, argumentAfter_cons]
      exact ih _ _

/-- What is supplied under a name is kept by binding: it is not reported missing, and what the first
parameter of the name makes of it is bound to the name and checked against the schema. -/
structure Keeps (parameters : List ParameterDefinition) (supplied : JsonFields) (key : String)
    (argument : Json) : Prop where
  notMissing : ofSupplied parameters supplied ≠ .error (.missingParameter key)
  coerced : ∀ arguments, ofSupplied parameters supplied = .ok arguments →
    ∀ earlier parameter later, parameters = earlier ++ parameter :: later →
      parameter.name = key → key ∉ earlier.map name →
        ∃ value, coerce key parameter.type argument = .ok value ∧
          KeyedList.get? key arguments.bound = some value ∧
            KeyedList.get? key arguments.checked = some value

theorem not_mem_of_count_le_one (split : parameters = earlier ++ parameter :: later)
    (once : (parameters.map name).count parameter.name ≤ 1) :
    parameter.name ∉ earlier.map name ∧ parameter.name ∉ later.map name := by
  rw [split, List.map_append, List.map_cons, List.count_append, List.count_cons_self] at once
  exact ⟨List.not_mem_of_count_eq_zero (by omega), List.not_mem_of_count_eq_zero (by omega)⟩

/-- What is supplied under the name of one parameter only is kept. -/
theorem keeps_of_once (once : (parameters.map name).count key ≤ 1)
    (given : KeyedList.get? key supplied = some argument) :
    Keeps parameters supplied key argument where
  notMissing refused := by
    have offence := (ofSupplied_eq_error_iff _ _ _).mp refused
    obtain ⟨earlier, parameter, later, split, rfl, taken | omitted⟩ := offence.of_missing
    · exact (not_mem_of_count_le_one split once).1 taken
    · cases given.symm.trans omitted
  coerced := by
    rintro arguments bound earlier parameter later rfl rfl first
    obtain ⟨inoffensive, rfl⟩ := (ofSupplied_eq_ok_iff _ _ _).mp bound
    have last := (not_mem_of_count_le_one rfl once).2
    have own : parameter.argumentAfter earlier supplied = some argument := by
      rw [argumentAfter, if_neg first, given]
    have converted := inoffensive earlier parameter later rfl
    rw [own, offence?] at converted
    split at converted
    · next converts =>
        obtain ⟨value, converts⟩ := Option.isSome_iff_exists.mp converts
        obtain ⟨bound, checked⟩ := get?_bindValues_last last earlier supplied empty
        have made : parameter.value (some argument) = value := by
          rw [ParameterDefinition.value, converts]
          rfl
        rw [own, made] at bound checked
        exact ⟨value, coerce_eq_ok_iff.mpr converts, bound, checked rfl⟩
    · cases converted

/-- What the parameters bind to a name that one of them has and no other. -/
theorem coerced_of_once (once : (parameters.map name).count key ≤ 1)
    (given : KeyedList.get? key supplied = some argument) {arguments : BoundArguments}
    (binds : ofSupplied parameters supplied = .ok arguments) (member : parameter ∈ parameters)
    (named : parameter.name = key) :
    ∃ value, coerce key parameter.type argument = .ok value ∧
      KeyedList.get? key arguments.bound = some value ∧
        KeyedList.get? key arguments.checked = some value := by
  subst named
  obtain ⟨earlier, later, split⟩ := List.append_of_mem member
  have first := (not_mem_of_count_le_one split once).1
  exact (keeps_of_once once given).coerced arguments binds earlier parameter later split rfl first

/-! ### Two parameters of one name -/

theorem exists_first_of_mem (member : key ∈ parameters.map name) :
    ∃ earlier parameter later, parameters = earlier ++ parameter :: later ∧ parameter.name = key ∧
      key ∉ earlier.map name := by
  obtain ⟨names, rest, split, untaken⟩ := List.eq_append_cons_of_mem member
  obtain ⟨earlier, others, rfl, rfl, further⟩ := List.map_eq_append_iff.mp split
  obtain ⟨parameter, later, rfl, rfl, -⟩ := List.map_eq_cons_iff.mp further
  exact ⟨earlier, parameter, later, rfl, rfl, untaken⟩

theorem exists_last_of_mem (member : key ∈ parameters.map name) :
    ∃ earlier parameter later, parameters = earlier ++ parameter :: later ∧ parameter.name = key ∧
      key ∉ later.map name := by
  have reversed : key ∈ parameters.reverse.map name := by
    rwa [List.map_reverse, List.mem_reverse]
  obtain ⟨later, parameter, earlier, split, named, untaken⟩ := exists_first_of_mem reversed
  refine ⟨earlier.reverse, parameter, later.reverse, ?_, named, ?_⟩
  · rw [List.reverse_eq_iff.mp split, List.reverse_append, List.reverse_cons, List.append_assoc]
    rfl
  · rwa [List.map_reverse, List.mem_reverse]

theorem exists_isOfType_ne (type : ParamType) (avoided : Json) :
    ∃ value, IsOfType type value ∧ value ≠ avoided := by
  have two : ∃ first second, IsOfType type first ∧ IsOfType type second ∧ first ≠ second := by
    cases type with
    | string => exact ⟨_, _, .string "", .string "a", by simp⟩
    | integer => exact ⟨_, _, .integer 0 (by decide), .integer 1 (by decide), by simp⟩
    | number =>
        exact ⟨_, _, .number (.integer 0 (by decide)), .number (.integer 1 (by decide)), by simp⟩
    | boolean => exact ⟨_, _, .boolean true, .boolean false, by simp⟩
    | object => exact ⟨_, _, .object [], .object [("", .null)], by simp⟩
    | array => exact ⟨_, _, .array [], .array [.null], by simp⟩
    | any => exact ⟨_, _, .any .null, .any (.bool true), by simp⟩
  obtain ⟨first, second, firstTyped, secondTyped, apart⟩ := two
  by_cases same : first = avoided
  · exact ⟨second, secondTyped, fun other => apart (same.trans other.symm)⟩
  · exact ⟨first, firstTyped, same⟩

/-- An argument for every name, of the type of the first parameter of the name. -/
def sampled (sample : ParamType → Json) (parameters : List ParameterDefinition) : JsonFields :=
  parameters.foldr (fun parameter rest =>
    KeyedList.insert parameter.name (sample parameter.type) rest) []

theorem get?_sampled (sample : ParamType → Json) (first : parameter.name ∉ earlier.map name) :
    KeyedList.get? parameter.name (sampled sample (earlier ++ parameter :: later)) =
      some (sample parameter.type) := by
  induction earlier with
  | nil => exact (KeyedList.get?_insert _ _ _ _).trans (if_pos rfl)
  | cons other earlier ih =>
      rw [List.map_cons, List.mem_cons, not_or] at first
      have apart : ¬ other.name = parameter.name := fun same => first.1 same.symm
      exact (KeyedList.get?_insert _ _ _ _).trans ((if_neg apart).trans (ih first.2))

theorem get?_sampled_of_mem (sample : ParamType → Json) (member : key ∈ parameters.map name) :
    ∃ argument, KeyedList.get? key (sampled sample parameters) = some argument := by
  obtain ⟨earlier, parameter, later, rfl, rfl, first⟩ := exists_first_of_mem member
  exact ⟨_, get?_sampled sample first⟩

/-- Where there is an argument of its type for every parameter, the only offence is that of a second
parameter of a name. -/
theorem eq_missing_of_sampled {sample : ParamType → Json}
    (typed : ∀ type, IsOfType type (sample type)) {error : HostError}
    (refused : ofSupplied parameters (sampled sample parameters) = .error error) :
    ∃ key ∈ parameters.map name, error = .missingParameter key := by
  have offence := (ofSupplied_eq_error_iff _ _ _).mp refused
  generalize sampled_eq : sampled sample parameters = supplied at offence
  obtain @⟨earlier, later, parameter, -, offends⟩ := offence
  rw [argumentAfter] at offends
  split at offends
  · rw [offence?] at offends
    split at offends
    · exact ⟨parameter.name, by simp, (Option.some.inj offends).symm⟩
    · cases offends
  · next first =>
      rw [← sampled_eq, get?_sampled sample first, offence?, (typed _).convert?_eq] at offends
      cases offends

/-- Binding keeps whatever is supplied exactly where no two parameters have the same name. -/
theorem keeps_iff_nodup (parameters : List ParameterDefinition) :
    (∀ supplied key argument, KeyedList.get? key supplied = some argument →
      Keeps parameters supplied key argument) ↔ (parameters.map name).Nodup := by
  constructor
  · intro keeps
    refine List.nodup_iff_count_le_one.mpr fun key => ?_
    by_contra repeated
    have member : key ∈ parameters.map name := List.count_pos_iff.mp (by omega)
    obtain ⟨earlier, last, later, split, rfl, unnamed⟩ := exists_last_of_mem member
    have taken : last.name ∈ earlier.map name := by
      rw [split, List.map_append, List.map_cons, List.count_append, List.count_cons_self,
        List.count_eq_zero.mpr unnamed] at repeated
      exact List.count_pos_iff.mp (by omega)
    -- Every argument is of its type and differs from what stands in for the last parameter.
    choose sample typed apart using fun type => exists_isOfType_ne type (last.value none)
    cases bound : ofSupplied parameters (sampled sample parameters) with
    | error error =>
        obtain ⟨other, among, rfl⟩ := eq_missing_of_sampled typed bound
        obtain ⟨argument, given⟩ := get?_sampled_of_mem sample among
        exact (keeps _ _ _ given).notMissing bound
    | ok arguments =>
        obtain ⟨front, first, rest, firstSplit, named, untaken⟩ := exists_first_of_mem member
        have given : KeyedList.get? first.name (sampled sample parameters) =
            some (sample first.type) := by
          rw [firstSplit]
          exact get?_sampled sample (named ▸ untaken)
        obtain ⟨value, coerces, found, -⟩ :=
          (keeps _ _ _ given).coerced arguments bound front first rest firstSplit rfl
            (named ▸ untaken)
        cases ((IsOfType.iff_coerce_eq_ok first.name).mp (typed first.type)).symm.trans coerces
        obtain ⟨-, rfl⟩ := (ofSupplied_eq_ok_iff _ _ _).mp bound
        rw [named, split, (get?_bindValues_last unnamed _ _ _).1, argumentAfter,
          if_pos taken] at found
        exact apart first.type (Option.some.inj found).symm
  · intro distinct supplied key argument given
    exact keeps_of_once (List.nodup_iff_count_le_one.mp distinct key) given

end BoundArguments

end PluginHost
