import PluginHost.Proofs.Tool.BindingByName
import PluginHost.Proofs.Tool.CoreText
import PluginHost.Proofs.Tool.TypedValues

/-!
# Shortening texts

The tool `truncate` never gives more characters than its limit, and gives the text itself where it
fits.  Its arguments are a text and a limit, which is 80 unless stated; once they have passed the
checks before a call, the tool reads them without fail.
-/

namespace PluginHost

open ParameterDefinition

namespace CoreText

/-! ### Texts of a limited length -/

/-- What becomes of a text that is shortened to a limit. -/
structure ShortensTo (text : String) (limit : Nat) (ellipsis result : String) : Prop where
  within : result.length ≤ limit
  unchanged_iff : result = text ↔ text.length ≤ limit
  full : limit < text.length → result.length = limit
  /-- Where the ellipsis leaves room, the beginning of the text stands before it. -/
  marked : limit < text.length → ellipsis.length < limit → ∃ kept dropped,
    text = kept ++ dropped ∧ kept.length = limit - ellipsis.length ∧ result = kept ++ ellipsis
  cut : limit < text.length → limit ≤ ellipsis.length → ∃ dropped, text = result ++ dropped
  again : truncate result limit ellipsis = result

theorem truncate_of_le {text : String} {limit : Nat} (fits : text.length ≤ limit)
    (ellipsis : String) : truncate text limit ellipsis = text :=
  if_pos fits

theorem length_truncate_of_lt {text : String} {limit : Nat} (long : limit < text.length)
    (ellipsis : String) : (truncate text limit ellipsis).length = limit := by
  have letters : limit ≤ text.toList.length := by
    rw [String.length_toList]
    exact Nat.le_of_lt long
  rw [truncate, if_neg (Nat.not_le.mpr long)]
  split
  · rw [String.length_ofList, List.length_take_of_le letters]
  · next room =>
      rw [String.length_ofList, List.length_append, List.length_take_of_le (by omega),
        String.length_toList]
      omega

theorem length_truncate_le (text : String) (limit : Nat) (ellipsis : String) :
    (truncate text limit ellipsis).length ≤ limit := by
  rcases Nat.lt_or_ge limit text.length with long | fits
  · exact Nat.le_of_eq (length_truncate_of_lt long ellipsis)
  · rwa [truncate_of_le fits]

theorem truncate_shortensTo (text : String) (limit : Nat) (ellipsis : String) :
    ShortensTo text limit ellipsis (truncate text limit ellipsis) where
  within := length_truncate_le text limit ellipsis
  unchanged_iff := by
    constructor
    · intro same
      have within := length_truncate_le text limit ellipsis
      rwa [same] at within
    · intro fits
      exact truncate_of_le fits ellipsis
  full long := length_truncate_of_lt long ellipsis
  marked long room := by
    refine ⟨String.ofList (text.toList.take (limit - ellipsis.length)),
      String.ofList (text.toList.drop (limit - ellipsis.length)), ?_, ?_, ?_⟩
    · rw [← String.ofList_append, List.take_append_drop, String.ofList_toList]
    · rw [String.length_ofList, List.length_take_of_le]
      rw [String.length_toList]
      omega
    · rw [truncate, if_neg (Nat.not_le.mpr long), if_neg (Nat.not_le.mpr room),
        String.ofList_append, String.ofList_toList]
  cut long noRoom := by
    refine ⟨String.ofList (text.toList.drop limit), ?_⟩
    rw [truncate, if_neg (Nat.not_le.mpr long), if_pos noRoom, ← String.ofList_append,
      List.take_append_drop, String.ofList_toList]
  again := truncate_of_le (length_truncate_le text limit ellipsis) ellipsis

/-! ### The arguments of a call -/

/-- The text that the arguments of a call state. -/
inductive StatesText (fields : JsonFields) : String → Prop where
  | given {argument : Json} {text : String} (found : KeyedList.get? "text" fields = some argument)
      (coerces : coerce "text" .string argument = .ok (.string text)) : StatesText fields text

/-- The limit that the arguments of a call state, or that stands in where they state none. -/
inductive StatesLimit (fields : JsonFields) : Int → Prop where
  | omitted (absent : KeyedList.get? "max_chars" fields = none) : StatesLimit fields 80
  | given {argument : Json} {limit : Int} {inRange : IsJsonInteger limit}
      (found : KeyedList.get? "max_chars" fields = some argument)
      (coerces : coerce "max_chars" .integer argument =
        .ok (.number (.integer limit inRange))) : StatesLimit fields limit

/-- A text and a limit are entered under the names of the parameters. -/
structure Enters (entries : JsonFields) (text : String) (limit : Int) : Prop where
  text : KeyedList.get? "text" entries = some (.string text)
  limit : ∃ inRange, KeyedList.get? "max_chars" entries = some (.number (.integer limit inRange))

def textParameter : ParameterDefinition :=
  ⟨"text", .string, true, none, "Text to shorten"⟩

def limitParameter : ParameterDefinition :=
  ⟨"max_chars", .integer, false, some (.ofInt defaultLimit),
    "Maximum number of characters kept, ellipsis included"⟩

variable {fields entries : JsonFields} {arguments : BoundArguments} {ellipsis text : String}
  {limit : Int}

theorem StatesText.boundTo (states : StatesText fields text) :
    BoundTo fields textParameter (.string text) := by
  cases states with
  | given found coerces => exact .coerced found coerces

theorem StatesLimit.boundTo (states : StatesLimit fields limit) :
    ∃ inRange, BoundTo fields limitParameter (.number (.integer limit inRange)) := by
  cases states with
  | omitted absent => exact ⟨by decide, .default absent rfl⟩
  | given found coerces => exact ⟨_, .coerced found coerces⟩

theorem exists_statesText_iff :
    (∃ text, StatesText fields text) ↔ ∀ error, ¬ Offends fields textParameter error := by
  rw [not_offends_iff]
  constructor
  · rintro ⟨text, ⟨found, coerces⟩⟩
    refine ⟨fun argument given => ?_, fun _ _ => ⟨_, found⟩⟩
    cases found.symm.trans given
    exact ⟨_, coerces⟩
  · rintro ⟨coerced, given⟩
    obtain ⟨argument, found⟩ := given rfl rfl
    obtain ⟨value, coerces⟩ := coerced argument found
    cases IsOfType.of_convert? (coerce_eq_ok_iff.mp coerces) with
    | string text => exact ⟨text, .given found coerces⟩

theorem exists_statesLimit_iff :
    (∃ limit, StatesLimit fields limit) ↔ ∀ error, ¬ Offends fields limitParameter error := by
  rw [not_offends_iff]
  constructor
  · rintro ⟨limit, states⟩
    refine ⟨fun argument given => ?_, nofun⟩
    cases states with
    | omitted absent => cases absent.symm.trans given
    | given found coerces =>
        cases found.symm.trans given
        exact ⟨_, coerces⟩
  · rintro ⟨coerced, -⟩
    cases found : KeyedList.get? "max_chars" fields with
    | none => exact ⟨80, .omitted found⟩
    | some argument =>
        obtain ⟨value, coerces⟩ := coerced argument found
        cases IsOfType.of_convert? (coerce_eq_ok_iff.mp coerces) with
        | integer limit inRange => exact ⟨limit, .given found coerces⟩

theorem nodup_truncateParameters : ([textParameter, limitParameter].map name).Nodup := by
  decide

/-- Arguments are bound exactly if they state a text and a limit. -/
theorem exists_ofSupplied_iff :
    (∃ arguments, BoundArguments.ofSupplied [textParameter, limitParameter] fields =
        .ok arguments) ↔
      (∃ text, StatesText fields text) ∧ ∃ limit, StatesLimit fields limit := by
  rw [BoundArguments.exists_ok_iff nodup_truncateParameters, exists_statesText_iff,
    exists_statesLimit_iff]
  simp

theorem enters_of_states
    (bound : BoundArguments.ofSupplied [textParameter, limitParameter] fields = .ok arguments)
    (statesText : StatesText fields text) (statesLimit : StatesLimit fields limit) :
    Enters arguments.bound text limit ∧ Enters arguments.checked text limit := by
  obtain ⟨inRange, limitBound⟩ := statesLimit.boundTo
  have textMember : textParameter ∈ [textParameter, limitParameter] := List.mem_cons_self
  have limitMember : limitParameter ∈ [textParameter, limitParameter] :=
    List.mem_cons_of_mem _ List.mem_cons_self
  have textEntry := (BoundArguments.get?_bound_iff nodup_truncateParameters bound textMember _).mpr
    statesText.boundTo
  have limitEntry := (BoundArguments.get?_bound_iff nodup_truncateParameters bound limitMember
    _).mpr limitBound
  have textChecked := BoundArguments.get?_checked_eq nodup_truncateParameters bound textMember
    (by obtain ⟨found, -⟩ := statesText; simp [isOmitted, textParameter, found])
  have limitChecked := BoundArguments.get?_checked_eq nodup_truncateParameters bound limitMember
    (by simp [isOmitted, limitParameter])
  exact ⟨⟨textEntry, inRange, limitEntry⟩,
    ⟨textChecked.trans textEntry, inRange, limitChecked.trans limitEntry⟩⟩

theorem ofInt_zero_steps_le_iff {inRange : IsJsonInteger limit} :
    (JsonNumber.ofInt 0).steps ≤ (JsonNumber.integer limit inRange).steps ↔ 0 ≤ limit := by
  have zero : JsonNumber.ofInt 0 = .integer 0 (by decide) := rfl
  rw [zero, JsonNumber.steps, JsonNumber.steps, Int.zero_mul]
  exact Int.mul_nonneg_iff_of_pos_right (Int.natCast_pos.mpr stepsPerUnit_pos)

/-- The schema objects to limits below zero and to nothing else. -/
theorem truncateSchema_violations_eq_nil_iff (enters : Enters entries text limit) :
    truncateSchema.violations (.object entries) = [] ↔ 0 ≤ limit := by
  obtain ⟨textEntry, inRange, limitEntry⟩ := enters
  obtain ⟨count, violations_eq⟩ := truncateSchema.violations_eq (.object entries)
  have hasText : KeyedList.contains "text" entries = true := by
    rw [KeyedList.contains, textEntry, Option.isSome_some]
  rw [violations_eq]
  simp [truncateSchema, SchemaReading.next, SchemaReading.resolved, SchemaConstraint.violations,
    SchemaConstraint.fault?, Json.get?, textEntry, limitEntry, NumberBound.admits, hasText,
    SchemaType.admits, SchemaType.isInteger, ofInt_zero_steps_le_iff]

/-- The tool reads what is entered, and answers with the shortened text. -/
theorem truncateTool_reads (enters : Enters entries text limit) (notBelow : 0 ≤ limit)
    (ellipsis : String) :
    (ToolArgs.mk entries).getText "text" = .ok text ∧
      (ToolArgs.mk entries).getCount "max_chars" = .ok limit.toNat ∧
        (truncateTool ellipsis).handler ⟨entries⟩ =
          .immediate (.returned (.string (truncate text limit.toNat ellipsis))) := by
  obtain ⟨textEntry, inRange, limitEntry⟩ := enters
  have counts : IntegerRange.unsigned64.contains limit = true := by
    rw [IntegerRange.contains, Bool.and_eq_true, decide_eq_true_eq, decide_eq_true_eq]
    exact ⟨notBelow, Int.le_sub_one_of_lt inRange.2⟩
  have textRead : (ToolArgs.mk entries).getText "text" = .ok text := by
    simp [ToolArgs.getText, ToolArgs.get, ToolArgs.raw?, textEntry, ArgumentShape.read,
      Except.mapError, Except.map, Json.asString?]
  have limitRead : (ToolArgs.mk entries).getCount "max_chars" = .ok limit.toNat := by
    simp [ToolArgs.getCount, ToolArgs.get, ToolArgs.raw?, limitEntry, ArgumentShape.read,
      ArgumentShape.readInteger, counts, Except.mapError, Except.map]
  refine ⟨textRead, limitRead, ?_⟩
  simp only [truncateTool, textRead, limitRead]
  rfl

/-! ### Calls -/

/-- An active instance of the text plugin whose tool `truncate` is in a registry. -/
structure TruncatingInstance (registry : ToolRegistry) (handles : Handles) where
  number : Nat
  handle : PluginHandle
  context : PluginContext
  tool : RegisteredTool
  function : ToolFunction
  found : handles[number]? = some handle
  textPlugin : handle.plugin = plugin
  active : handle.state = .active context
  /-- It is active because its hook succeeded. -/
  initialised : plugin.init context = .succeeded
  offered : function ∈ handle.tools
  named : function.descriptor.name = "truncate"
  yields : (Submission.mk handle number function).Yields tool
  registered : registry.find? "truncate" = some tool

/-- What becomes of a call of `truncate` with some arguments. -/
structure AnswersTruncate (registry : ToolRegistry) (handles : Handles) (ellipsis : String)
    (args : Json) : Prop where
  /-- Arguments that state a text and a limit are answered with the shortened text. -/
  answered : ∀ fields text (limit : Nat), Supplies args fields → StatesText fields text →
    StatesLimit fields limit →
      registry.invoke handles "truncate" args =
        .finished (.ok (.string (truncate text limit ellipsis)))
  /-- All others are refused before the tool runs. -/
  refused : (¬ ∃ fields text, ∃ limit : Nat, Supplies args fields ∧ StatesText fields text ∧
      StatesLimit fields limit) →
    ∃ message, registry.prepare handles "truncate" args = .error (.invalidArgument message) ∧
      registry.invoke handles "truncate" args = .finished (.error (.invalidArgument message))
  /-- What has passed the checks is read without fail, and as it was stated. -/
  reads : ∀ call, registry.prepare handles "truncate" args = .ok call →
    ∃ fields text, ∃ limit : Nat, Supplies args fields ∧ StatesText fields text ∧
      StatesLimit fields limit ∧ call.args.getText "text" = .ok text ∧
        call.args.getCount "max_chars" = .ok limit

variable {registry : ToolRegistry} {handles : Handles} {args : Json} {tool : RegisteredTool}
  {owner : PluginHandle} {number : Nat}

theorem schema_of_yields
    (yields : (Submission.mk owner number (truncateTool ellipsis)).Yields tool) :
    tool.schema = truncateSchema :=
  Except.ok.inj (yields.compiles.symm.trans (ofJson_truncateTool ellipsis))

section

variable (registered : registry.find? "truncate" = some tool)
  (yields : (Submission.mk owner number (truncateTool ellipsis)).Yields tool)
  (active : handles.isActive number = true)

include registered yields active

/-- A call whose arguments state a text and a limit that is not below zero passes. -/
theorem exists_passingCall (supplies : Supplies args fields) (statesText : StatesText fields text)
    (statesLimit : StatesLimit fields limit) (notBelow : 0 ≤ limit) :
    ∃ passing : PassingCall registry handles "truncate" args,
      passing.tool = tool ∧ Enters passing.arguments.bound text limit := by
  obtain ⟨arguments, bound⟩ := exists_ofSupplied_iff.mpr ⟨⟨text, statesText⟩, limit, statesLimit⟩
  obtain ⟨entersBound, entersChecked⟩ := enters_of_states bound statesText statesLimit
  refine ⟨⟨tool, fields, arguments, registered, by rwa [yields.owner_eq], supplies, ?_, ?_⟩, rfl,
    entersBound⟩
  · rw [yields.definition_eq, parameters_truncateTool]
    exact bound
  · rw [schema_of_yields yields]
    exact (truncateSchema_violations_eq_nil_iff entersChecked).mpr notBelow

omit active in
/-- A call that passes has arguments that state a text and a limit that is not below zero. -/
theorem states_of_passingCall (passing : PassingCall registry handles "truncate" args) :
    ∃ text limit, StatesText passing.fields text ∧ StatesLimit passing.fields limit ∧ 0 ≤ limit ∧
      Enters passing.arguments.bound text limit := by
  obtain rfl := Option.some.inj (passing.registered.symm.trans registered)
  have bound := passing.binds
  have valid := passing.valid
  rw [yields.definition_eq, parameters_truncateTool] at bound
  rw [schema_of_yields yields] at valid
  obtain ⟨⟨text, statesText⟩, limit, statesLimit⟩ := exists_ofSupplied_iff.mp ⟨_, bound⟩
  obtain ⟨entersBound, entersChecked⟩ := enters_of_states bound statesText statesLimit
  exact ⟨text, limit, statesText, statesLimit,
    (truncateSchema_violations_eq_nil_iff entersChecked).mp valid, entersBound⟩

theorem answersTruncate (args : Json) : AnswersTruncate registry handles ellipsis args where
  answered fields text limit supplies statesText statesLimit := by
    obtain ⟨passing, rfl, enters⟩ := exists_passingCall registered yields active supplies statesText
      statesLimit (Int.natCast_nonneg limit)
    have run_eq : passing.prepared.run =
        .immediate (.returned (.string (truncate text limit ellipsis))) := by
      show passing.tool.handler _ = _
      rw [yields.handler_eq]
      exact (truncateTool_reads enters (Int.natCast_nonneg limit) ellipsis).2.2
    rw [ToolRegistry.invoke, passing.prepare_eq]
    simp only [run_eq]
    rfl
  refused unstated := by
    rcases ToolRegistry.passing_or_refusal registry handles "truncate" args with
      ⟨⟨passing⟩⟩ | ⟨error, refusal⟩
    · obtain ⟨text, limit, statesText, statesLimit, notBelow, -⟩ :=
        states_of_passingCall registered yields passing
      obtain ⟨count, rfl⟩ := Int.eq_ofNat_of_zero_le notBelow
      exact absurd ⟨passing.fields, text, count, passing.supplies, statesText, statesLimit⟩ unstated
    · obtain ⟨message, rfl⟩ := refusal.exists_message registered (by rwa [yields.owner_eq])
      have refused := ToolRegistry.prepare_of_refusal refusal
      exact ⟨message, refused, by rw [ToolRegistry.invoke, refused]⟩
  reads call prepared := by
    obtain ⟨passing, rfl⟩ := ToolRegistry.prepare_eq_ok_iff.mp prepared
    obtain ⟨text, limit, statesText, statesLimit, notBelow, enters⟩ :=
      states_of_passingCall registered yields passing
    obtain ⟨count, rfl⟩ := Int.eq_ofNat_of_zero_le notBelow
    obtain ⟨textRead, limitRead, -⟩ := truncateTool_reads enters notBelow ellipsis
    exact ⟨passing.fields, text, count, passing.supplies, statesText, statesLimit, textRead,
      limitRead⟩

end

/-- The arguments that give a text and a limit. -/
def truncateArgs (text : String) (limit : Nat) : Json :=
  .object [("max_chars", .ofNat limit), ("text", .string text)]

/-- Where `truncate` is the tool of an active instance, it shortens texts with the ellipsis of this
instance. -/
theorem invoke_truncate (registered : registry.find? "truncate" = some tool)
    (yields : (Submission.mk owner number (truncateTool ellipsis)).Yields tool)
    (active : handles.isActive number = true) (text : String) {limit : Nat}
    (inRange : limit < Nat.pow 2 64) :
    registry.invoke handles "truncate" (truncateArgs text limit) =
      .finished (.ok (.string (truncate text limit ellipsis))) := by
  have isInteger : IsJsonInteger limit := by
    have positive : (0 : Int) ≤ Int.pow 2 63 := by decide
    exact ⟨by omega, Int.ofNat_lt.mpr inRange⟩
  have limit_eq : Json.ofNat limit = .number (.integer limit isInteger) := by
    rw [Json.ofNat, JsonNumber.ofInt, dif_pos isInteger]
  have statesLimit : StatesLimit [("max_chars", .ofNat limit), ("text", .string text)] limit := by
    rw [limit_eq]
    exact .given rfl rfl
  exact (answersTruncate registered yields active _).answered _ text limit (.object _)
    (.given rfl rfl) statesLimit

theorem eq_truncateTool {function : ToolFunction} (member : function ∈ toolsWith ellipsis)
    (named : function.descriptor.name = "truncate") : function = truncateTool ellipsis := by
  simp only [toolsWith, List.mem_cons, List.not_mem_nil, or_false] at member
  rcases member with rfl | rfl | rfl | rfl
  · exact absurd named (by decide)
  · rfl
  · exact absurd named (by decide)
  · exact absurd named (by decide)

/-- Where the tools of an active instance were registered last, its tool is called. -/
theorem exists_truncatingInstance (requests : List RegistryRequest) {handle : PluginHandle}
    {context : PluginContext} (found : handles[number]? = some handle)
    (textPlugin : handle.plugin = plugin) (active : handle.state = .active context)
    (initialised : plugin.init context = .succeeded) :
    ∃ serving : TruncatingInstance
      (ToolRegistry.empty.run (requests ++ [.plugin handles number])) handles,
        serving.context = context := by
  obtain ⟨ellipsis, read⟩ := (init_eq_succeeded_iff _).mp initialised
  have tools : handle.tools = toolsWith ellipsis := by
    simp only [PluginHandle.tools, active, textPlugin, tools_eq read]
  have offered : truncateTool ellipsis ∈ handle.tools := by
    rw [tools]
    exact List.mem_cons_of_mem _ List.mem_cons_self
  obtain ⟨tool, yields⟩ := succeeds_of_mem_toolsWith (tools ▸ offered) handle number
  refine ⟨⟨number, handle, context, tool, truncateTool ellipsis, found, textPlugin, active,
    initialised, offered, rfl, yields, ?_⟩, rfl⟩
  have submitted : (RegistryRequest.plugin handles number).submissions =
      (toolsWith ellipsis).map (Submission.mk handle number) := by
    simp only [RegistryRequest.submissions, found, tools]
  have distinct : (((toolsWith ellipsis).map (Submission.mk handle number)).map
      Submission.name).Nodup := by
    rw [List.map_map]
    exact nodup_names_toolsWith ellipsis
  rw [ToolRegistry.run_eq_filled, List.flatMap_append, List.flatMap_singleton, submitted]
  exact ToolRegistry.find?_filled_of_mem_final distinct
    (List.mem_map_of_mem (tools ▸ offered)) yields

/-- Texts are shortened as the tool is described, for every text, limit and ellipsis, and by every
call of the tool of an active instance with the ellipsis of its configuration. -/
structure ShortensTexts (registry : ToolRegistry) (handles : Handles)
    (serving : TruncatingInstance registry handles) : Prop where
  shortens : ∀ text limit ellipsis,
    ShortensTo text limit ellipsis (truncate text limit ellipsis)
  calls : ∃ ellipsis, readEllipsis serving.context.config = .ok ellipsis ∧
    Configures serving.context.config ellipsis ∧
      ∀ args, AnswersTruncate registry handles ellipsis args

theorem truncate_shortensTexts (registry : ToolRegistry) (handles : Handles)
    (serving : TruncatingInstance registry handles) : ShortensTexts registry handles serving where
  shortens := truncate_shortensTo
  calls := by
    obtain ⟨ellipsis, read⟩ := (init_eq_succeeded_iff _).mp serving.initialised
    have offered : serving.function ∈ toolsWith ellipsis := by
      have offered := serving.offered
      simp only [PluginHandle.tools, serving.active, serving.textPlugin] at offered
      rwa [tools_eq read] at offered
    have function_eq := eq_truncateTool offered serving.named
    have active : handles.isActive serving.number = true := by
      rw [Handles.isActive, serving.found]
      simp only [PluginHandle.isActive, serving.active]
    exact ⟨ellipsis, read, configures_of_readEllipsis read,
      answersTruncate serving.registered (function_eq ▸ serving.yields) active⟩

/-- A limit that is given as a text with blanks, a number in place of the text, and an ellipsis of
one character. -/
theorem truncate_shortensTexts_number :
    let context : PluginContext :=
      ⟨.ofNumbers 1 0 0, .ofNumbers 1 0 0, .object [("ellipsis", .string "…")], none⟩
    let handles : Handles := [⟨"core-text", plugin, .active context⟩]
    let registry := ToolRegistry.empty.run ([] ++ [.plugin handles 0])
    ∃ serving : TruncatingInstance registry handles, ShortensTexts registry handles serving ∧
      registry.invoke handles "truncate"
          (.object [("max_chars", .string " 4 "), ("text", .ofInt 1234567)]) =
        .finished (.ok (.string "123…")) := by
  intro context handles registry
  have found : handles[0]? = some ⟨"core-text", plugin, .active context⟩ := rfl
  obtain ⟨serving, sameContext⟩ := exists_truncatingInstance [] found rfl rfl rfl
  have shortensTexts := truncate_shortensTexts registry handles serving
  refine ⟨serving, shortensTexts, ?_⟩
  obtain ⟨ellipsis, read, -, answers⟩ := shortensTexts.calls
  rw [sameContext] at read
  obtain rfl : "…" = ellipsis := Except.ok.inj read
  exact (answers _).answered _ "1234567" 4 (.object _) (.given rfl rfl) (.given rfl rfl)

end CoreText

end PluginHost
