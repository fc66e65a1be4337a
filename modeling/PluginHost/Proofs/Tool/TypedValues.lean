import PluginHost.Proofs.Tool.Coercion

/-!
# Values of a parameter's type

The values of a type are those that coercion to it leaves as they are.  Whatever it accepts becomes
one of them, so that a second coercion changes nothing.  Only texts, numbers and truth values are
ever made out of something else.
-/

namespace PluginHost

open Coercion

/-- A value is of a parameter's type; integers are the whole numbers that are kept exactly. -/
inductive IsOfType : ParamType → Json → Prop where
  | string (text : String) : IsOfType .string (.string text)
  | integer (value : Int) (inRange : IsJsonInteger value) :
      IsOfType .integer (.number (.integer value inRange))
  | number (number : JsonNumber) : IsOfType .number (.number number)
  | boolean (flag : Bool) : IsOfType .boolean (.bool flag)
  | object (fields : JsonFields) : IsOfType .object (.object fields)
  | array (items : List Json) : IsOfType .array (.array items)
  | any (value : Json) : IsOfType .any value

/-- An object, an array or null. -/
inductive Json.IsStructured : Json → Prop where
  | null : IsStructured .null
  | object (fields : JsonFields) : IsStructured (.object fields)
  | array (items : List Json) : IsStructured (.array items)

theorem JsonNumber.ofInt?_eq_some_iff {value : Int} {number : JsonNumber} :
    ofInt? value = some number ↔ ∃ inRange, number = .integer value inRange := by
  rw [ofInt?]
  split
  · next inRange => simp [inRange, eq_comm]
  · next outOfRange => simp [outOfRange]

variable {name : String} {type : ParamType} {value result : Json}

theorem coerce_eq_ok_iff :
    coerce name type value = .ok result ↔ convert? type value = some result := by
  rw [coerce]
  cases convert? type value <;> simp

theorem coerce_eq_error_iff {error : HostError} :
    coerce name type value = .error error ↔
      convert? type value = none ∧
        error = .invalidArgument s!"parameter `{name}` must be of type {type.name}" := by
  rw [coerce]
  cases convert? type value <;> simp [eq_comm]

namespace IsOfType

theorem convert?_eq (typed : IsOfType type value) : convert? type value = some value := by
  cases typed with
  | any value => cases value <;> rfl
  | _ => rfl

theorem of_integral? {number taken : JsonNumber} (integral : integral? number = some taken) :
    IsOfType .integer (.number taken) := by
  cases number with
  | integer value inRange =>
      obtain rfl := Option.some.inj integral
      exact .integer value inRange
  | double double =>
      obtain ⟨value, -, -, -, inRange, rfl⟩ := integral?_double_eq_some_iff.mp integral
      exact .integer _ inRange

theorem of_parseInteger? {text : List Char} {taken : JsonNumber}
    (parses : parseInteger? text = some taken) : IsOfType .integer (.number taken) := by
  rw [parseInteger?] at parses
  split at parses
  · obtain ⟨inRange, rfl⟩ := JsonNumber.ofInt?_eq_some_iff.mp parses
    exact .integer _ inRange
  · split at parses
    · obtain ⟨inRange, rfl⟩ := JsonNumber.ofInt?_eq_some_iff.mp parses
      exact .integer _ inRange
    · cases parses

/-- Whatever coercion accepts becomes a value of the type. -/
theorem of_convert? (converts : convert? type value = some result) : IsOfType type result := by
  cases type with
  | string =>
      cases value with
      | string text => cases converts; exact .string text
      | number number => cases converts; exact .string _
      | bool flag => cases flag <;> (cases converts; exact .string _)
      | _ => cases converts
  | integer =>
      cases value with
      | number number =>
          obtain ⟨taken, integral, rfl⟩ := Option.map_eq_some_iff.mp converts
          exact of_integral? integral
      | string text =>
          obtain ⟨taken, parses, rfl⟩ := Option.map_eq_some_iff.mp converts
          exact of_parseInteger? parses
      | _ => cases converts
  | number =>
      cases value with
      | number number => cases converts; exact .number number
      | string text =>
          obtain ⟨double, -, rfl⟩ := Option.map_eq_some_iff.mp converts
          exact .number _
      | _ => cases converts
  | boolean =>
      cases value with
      | bool flag => cases converts; exact .boolean flag
      | string text =>
          obtain ⟨flag, -, rfl⟩ := Option.map_eq_some_iff.mp converts
          exact .boolean flag
      | _ => cases converts
  | object =>
      cases value with
      | object fields => cases converts; exact .object fields
      | _ => cases converts
  | array =>
      cases value with
      | array items => cases converts; exact .array items
      | _ => cases converts
  | any => exact .any result

/-- The values of a type are the fixed points of its coercion. -/
theorem iff_coerce_eq_ok (name : String) :
    IsOfType type value ↔ coerce name type value = .ok value := by
  rw [coerce_eq_ok_iff]
  exact ⟨convert?_eq, of_convert?⟩

end IsOfType

theorem eq_of_convert?_structured (structured : result.IsStructured)
    (converts : convert? type value = some result) : value = result := by
  have typed := IsOfType.of_convert? converts
  have ofAny (converts : convert? .any value = some result) : value = result :=
    Option.some.inj ((IsOfType.any value).convert?_eq.symm.trans converts)
  cases structured with
  | null =>
      cases typed with
      | any => exact ofAny converts
  | object fields =>
      cases typed with
      | any => exact ofAny converts
      | object =>
          cases value with
          | object _ => exact Option.some.inj converts
          | _ => cases converts
  | array items =>
      cases typed with
      | any => exact ofAny converts
      | array =>
          cases value with
          | array _ => exact Option.some.inj converts
          | _ => cases converts

theorem convert?_null_eq_none_iff : convert? type .null = none ↔ type ≠ .any := by
  cases type <;> simp [convert?]

/-- What coercion of a value to a type comes to. -/
structure SettlesAt (name : String) (type : ParamType) (value : Json) : Prop where
  /-- What comes out is of the type. -/
  typed : ∀ result, coerce name type value = .ok result → IsOfType type result
  /-- What comes out stays as it is when it is coerced again. -/
  settled : ∀ result, coerce name type value = .ok result → coerce name type result = .ok result
  /-- What is of the type already is left as it is. -/
  unchanged : IsOfType type value → coerce name type value = .ok value
  /-- Null is of no type but that of any value. -/
  null_iff : (∃ error, coerce name type .null = .error error) ↔ type ≠ .any
  /-- Objects, arrays and null are made of nothing else. -/
  unmade : ∀ result, coerce name type value = .ok result → result.IsStructured → value = result

/-- Coercion settles at once on values of the type. -/
theorem coerce_settlesAt (name : String) (type : ParamType) (value : Json) :
    SettlesAt name type value where
  typed result coerces := IsOfType.of_convert? (coerce_eq_ok_iff.mp coerces)
  settled result coerces := by
    have typed := IsOfType.of_convert? (coerce_eq_ok_iff.mp coerces)
    exact (IsOfType.iff_coerce_eq_ok name).mp typed
  unchanged typed := (IsOfType.iff_coerce_eq_ok name).mp typed
  null_iff := by
    simp only [coerce_eq_error_iff, exists_and_left, exists_eq, and_true]
    exact convert?_null_eq_none_iff
  unmade result coerces structured :=
    eq_of_convert?_structured structured (coerce_eq_ok_iff.mp coerces)

end PluginHost
