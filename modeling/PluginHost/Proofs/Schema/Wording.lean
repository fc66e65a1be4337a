import PluginHost.Proofs.Decimal.Numeral
import PluginHost.Schema.Fault

/-!
# How violations are worded

What a schema has against a value is told with the place of the value, with the value itself or with
one of a few phrases in front.  None of these opens like the report of a missing parameter.
-/

namespace PluginHost

/-- A text that is not empty and does not open with the letter of `Missing`. -/
def OpensOtherwise (text : List Char) : Prop :=
  ∃ c rest, text = c :: rest ∧ c ≠ 'M'

variable {text : List Char}

theorem OpensOtherwise.append (opens : OpensOtherwise text) (more : List Char) :
    OpensOtherwise (text ++ more) := by
  obtain ⟨c, rest, rfl, other⟩ := opens
  exact ⟨c, rest ++ more, rfl, other⟩

theorem OpensOtherwise.not_missing (opens : OpensOtherwise text) (rest : List Char) :
    text ≠ 'M' :: rest := by
  obtain ⟨c, _, rfl, other⟩ := opens
  exact fun same => other (List.cons.inj same).1

theorem IsNumeral.opensOtherwise (numeral : IsNumeral text) : OpensOtherwise text := by
  obtain ⟨c, rest, rfl, digit⟩ := numeral.exists_first
  refine ⟨c, rest, rfl, ?_⟩
  rintro rfl
  exact absurd digit (by decide)

/-! ### Numbers -/

theorem opensOtherwise_intDigits (value : Int) : OpensOtherwise (intDigits value) := by
  rw [intDigits]
  split
  · exact ⟨'-', _, rfl, by decide⟩
  · exact (isNumeral_toDigits _).opensOtherwise

namespace DecimalLayout

theorem opensOtherwise_positional (keepsFraction : Bool) (whole : Int) (numeral : IsNumeral text) :
    OpensOtherwise (positional keepsFraction text whole) := by
  have opens := numeral.opensOtherwise
  rw [positional]
  split
  · exact ⟨'0', _, rfl, by decide⟩
  · next positive =>
      split
      · dsimp only
        split
        · rw [List.append_assoc]
          exact opens.append _
        · exact opens.append _
      · obtain ⟨c, rest, rfl, other⟩ := opens
        obtain ⟨count, some⟩ : ∃ count, whole.toNat = count + 1 := ⟨whole.toNat - 1, by omega⟩
        rw [some, List.take_succ_cons]
        exact ⟨c, _, rfl, other⟩

theorem opensOtherwise_scientific (signsExponent : Bool) (leading : Int)
    (numeral : IsNumeral text) :
    OpensOtherwise (scientific signsExponent text leading) := by
  obtain ⟨c, rest, rfl, other⟩ := numeral.opensOtherwise
  cases rest with
  | nil => exact ⟨c, _, rfl, other⟩
  | cons d rest => exact ⟨c, _, rfl, other⟩

theorem opensOtherwise_write (layout : DecimalLayout) (number : Double) :
    OpensOtherwise (layout.write number).toList := by
  rw [write, String.toList_ofList]
  cases number.negative with
  | true => exact ⟨'-', _, rfl, by decide⟩
  | false =>
      simp only [Bool.false_eq_true, if_false, List.nil_append]
      split
      · split
        · exact ⟨'0', _, rfl, by decide⟩
        · exact ⟨'0', _, rfl, by decide⟩
      · split
        · exact opensOtherwise_positional _ _ (isNumeral_toDigits _)
        · exact opensOtherwise_scientific _ _ (isNumeral_toDigits _)

end DecimalLayout

/-! ### Values and faults -/

theorem Json.opensOtherwise_compact (value : Json) : OpensOtherwise value.compact.toList := by
  rw [compact, String.toList_ofList]
  cases value with
  | null => exact ⟨'n', _, rfl, by decide⟩
  | bool flag =>
      cases flag with
      | true => exact ⟨'t', _, rfl, by decide⟩
      | false => exact ⟨'f', _, rfl, by decide⟩
  | number number =>
      cases number with
      | integer value inRange => exact opensOtherwise_intDigits value
      | double double => exact DecimalLayout.opensOtherwise_write .json double
  | string text => exact ⟨'"', _, rfl, by decide⟩
  | array items =>
      cases items with
      | nil => exact ⟨'[', _, rfl, by decide⟩
      | cons first rest => exact ⟨'[', _, by rw [write], by decide⟩
  | object fields =>
      cases fields with
      | nil => exact ⟨'\x7b', _, rfl, by decide⟩
      | cons first rest => exact ⟨'\x7b', _, by rw [write], by decide⟩

theorem SchemaFault.opensOtherwise_message (fault : SchemaFault) :
    OpensOtherwise fault.message.toList := by
  have ofValue (value : Json) (more : List Char) :
      OpensOtherwise (value.compact.toList ++ more) := value.opensOtherwise_compact.append more
  have ofPhrase (phrase : String) (opens : OpensOtherwise phrase.toList) (more : List Char) :
      OpensOtherwise (phrase.toList ++ more) := opens.append more
  unfold message
  cases fault
  case wrongType value types =>
    rcases types with _ | ⟨type, _ | ⟨second, others⟩⟩
    all_goals
      simp only [toString, String.toList_append, List.append_assoc]
      exact ofValue value _
  all_goals simp only [toString, String.toList_append, List.append_assoc]
  case nothingContained => exact ofPhrase "None of " ⟨'N', _, rfl, by decide⟩ _
  case nothingAllowed => exact ofPhrase "False schema does not allow " ⟨'F', _, rfl, by decide⟩ _
  case unexpectedProperties =>
    exact ofPhrase "Additional properties are not allowed (" ⟨'A', _, rfl, by decide⟩ _
  case unexpectedItems =>
    exact ofPhrase "Additional items are not allowed (" ⟨'A', _, rfl, by decide⟩ _
  case unevaluatedProperties =>
    exact ofPhrase "Unevaluated properties are not allowed (" ⟨'U', _, rfl, by decide⟩ _
  case unevaluatedItems =>
    exact ofPhrase "Unevaluated items are not allowed (" ⟨'U', _, rfl, by decide⟩ _
  case unknownDialect => exact ofPhrase "Unknown specification: " ⟨'U', _, rfl, by decide⟩ _
  case danglingPointer => exact ofPhrase "Pointer '" ⟨'P', _, rfl, by decide⟩ _
  case invalidAnchor => exact ofPhrase "Anchor '" ⟨'A', _, rfl, by decide⟩ _
  case unknownAnchor => exact ofPhrase "Anchor '" ⟨'A', _, rfl, by decide⟩ _
  case unknownResource => exact ofPhrase "Resource '" ⟨'R', _, rfl, by decide⟩ _
  all_goals exact ofValue _ _

theorem SchemaViolation.opensOtherwise_message (violation : SchemaViolation) :
    OpensOtherwise violation.message.toList := by
  obtain ⟨path, fault⟩ := violation
  rw [message]
  cases path with
  | nil => exact fault.opensOtherwise_message
  | cons step rest =>
      simp only [List.isEmpty_cons, Bool.false_eq_true, if_false, List.map_cons, String.join_cons,
        String.toList_append, List.append_assoc]
      have opens : OpensOtherwise "/".toList := ⟨'/', _, rfl, by decide⟩
      exact opens.append _

theorem opensOtherwise_intercalate (separator : String) {messages : List String}
    (notEmpty : messages ≠ []) (each : ∀ message ∈ messages, OpensOtherwise message.toList) :
    OpensOtherwise (separator.intercalate messages).toList := by
  cases messages with
  | nil => exact absurd rfl notEmpty
  | cons first rest =>
      have opens := each first List.mem_cons_self
      cases rest with
      | nil => rwa [String.intercalate_singleton]
      | cons second rest =>
          rw [String.intercalate_cons_cons, String.append_assoc, String.toList_append]
          exact opens.append _

theorem opensOtherwise_violations {violations : List SchemaViolation} (some : violations ≠ []) :
    OpensOtherwise ("; ".intercalate (violations.map SchemaViolation.message)).toList := by
  refine opensOtherwise_intercalate "; " ?_ ?_
  · simpa using some
  · intro message member
    obtain ⟨violation, -, rfl⟩ := List.mem_map.mp member
    exact violation.opensOtherwise_message

end PluginHost
