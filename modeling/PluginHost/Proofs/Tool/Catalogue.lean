import Mathlib.Data.List.Induction
import PluginHost.Proofs.Tool.Registration

/-!
# The catalogue of a registry

After any requests the registry is the map from names to their last successful registrations.
Its lists go through that map in the order of the names' bytes.
-/

namespace PluginHost

open Text

/-- A submission is the last one of a name that succeeded. -/
def LastSuccess (submissions : List Submission) (name : String)
    (submission : Submission) : Prop :=
  ∃ before after,
    submissions = before ++ submission :: after ∧
      submission.name = name ∧ submission.Succeeds ∧
        ∀ later ∈ after, later.name = name → ¬ later.Succeeds

theorem lastSuccess_append_iff (submissions : List Submission) (final : Submission)
    (name : String) (submission : Submission) :
    LastSuccess (submissions ++ [final]) name submission ↔
      (final.name = name ∧ final.Succeeds) ∧ submission = final ∨
        ¬ (final.name = name ∧ final.Succeeds) ∧ LastSuccess submissions name submission := by
  constructor
  · rintro ⟨before, after, split, named, succeeds, silent⟩
    rcases List.eq_nil_or_concat' after with rfl | ⟨after, other, rfl⟩
    · obtain ⟨rfl, same⟩ := List.append_inj' split rfl
      cases same
      exact .inl ⟨⟨named, succeeds⟩, rfl⟩
    · rw [← List.cons_append, ← List.append_assoc] at split
      obtain ⟨rfl, same⟩ := List.append_inj' split rfl
      cases same
      obtain ⟨silentBefore, silentAtEnd⟩ := List.forall_mem_append.mp silent
      right
      constructor
      · rintro ⟨finalNamed, finalSucceeds⟩
        exact silentAtEnd final List.mem_cons_self finalNamed finalSucceeds
      · exact ⟨before, after, rfl, named, succeeds, silentBefore⟩
  · rintro (⟨⟨named, succeeds⟩, rfl⟩ | ⟨passes, before, after, rfl, named, succeeds, silent⟩)
    · exact ⟨submissions, [], rfl, named, succeeds, by simp⟩
    · refine ⟨before, after ++ [final], by simp, named, succeeds, ?_⟩
      rw [List.forall_mem_append, List.forall_mem_singleton]
      exact ⟨silent, fun finalNamed finalSucceeds => passes ⟨finalNamed, finalSucceeds⟩⟩

namespace ToolRegistry

/-- The registry that submissions fill. -/
def filled (submissions : List Submission) : ToolRegistry :=
  submissions.foldl submit empty

theorem filled_append (submissions : List Submission) (submission : Submission) :
    filled (submissions ++ [submission]) = (filled submissions).submit submission := by
  rw [filled, List.foldl_append]
  rfl

theorem run_eq_filled (requests : List RegistryRequest) :
    empty.run requests = filled (requests.flatMap RegistryRequest.submissions) :=
  empty.run_eq_foldl_submit requests

/-! ### The map -/

theorem find?_filled_iff (submissions : List Submission) (name : String)
    (tool : RegisteredTool) :
    (filled submissions).find? name = some tool ↔
      ∃ submission, LastSuccess submissions name submission ∧ submission.Yields tool := by
  -- The last submission decides, so the induction takes them from the end.
  induction submissions using List.reverseRecOn with
  | nil =>
      constructor
      · intro found
        cases found
      · rintro ⟨submission, ⟨before, after, split, -⟩, -⟩
        simp at split
  | append_singleton submissions final ih =>
      rw [filled_append, find?_submit]
      simp only [lastSuccess_append_iff]
      by_cases named : final.name = name
      · rw [if_pos named]
        cases yielded : final.tool? with
        | none =>
            have fails := final.tool?_eq_none_iff.mp yielded
            simp [named, fails, ih]
        | some last =>
            have yields := (final.tool?_eq_some_iff last).mp yielded
            have same : last = tool ↔ final.Yields tool := by
              rw [← final.tool?_eq_some_iff, yielded, Option.some_inj]
            have succeeds : final.Succeeds := ⟨last, yields⟩
            simp [named, same, succeeds]
      · simp [named, ih]

/-- Of submissions with names of their own, those that come last keep their names. -/
theorem find?_filled_of_mem_final {earlier final : List Submission}
    (distinct : (final.map Submission.name).Nodup) {submission : Submission}
    (member : submission ∈ final) {tool : RegisteredTool} (yields : submission.Yields tool) :
    (filled (earlier ++ final)).find? submission.name = some tool := by
  obtain ⟨before, after, rfl⟩ := List.append_of_mem member
  rw [List.map_append, List.map_cons, List.nodup_append] at distinct
  have silent : ∀ later ∈ after, later.name ≠ submission.name := by
    intro later among same
    have apart := (List.nodup_cons.mp distinct.2.1).1
    rw [← same] at apart
    exact apart (List.mem_map_of_mem among)
  refine (find?_filled_iff _ _ _).mpr ⟨submission, ?_, yields⟩
  exact ⟨earlier ++ before, after, by simp, rfl, ⟨tool, yields⟩,
    fun later among same => absurd same (silent later among)⟩

/-- A name without a tool has had no registration that succeeded. -/
theorem find?_filled_eq_none_iff (submissions : List Submission) (name : String) :
    (filled submissions).find? name = none ↔
      ∀ submission ∈ submissions, submission.name = name → ¬ submission.Succeeds := by
  induction submissions using List.reverseRecOn with
  | nil => simp [filled, find?, empty]
  | append_singleton submissions submission ih =>
      rw [filled_append, find?_submit, List.forall_mem_append, List.forall_mem_singleton]
      by_cases named : submission.name = name
      · rw [if_pos named, Option.or_eq_none_iff, ih, submission.tool?_eq_none_iff]
        constructor
        · rintro ⟨fails, earlier⟩
          exact ⟨earlier, fun _ => fails⟩
        · rintro ⟨earlier, fails⟩
          exact ⟨fails named, earlier⟩
      · rw [if_neg named, ih]
        exact ⟨fun earlier => ⟨earlier, fun same => (named same).elim⟩, And.left⟩

/-! ### The lists -/

theorem sorted_filled (submissions : List Submission) :
    KeyedList.Sorted (filled submissions).tools := by
  induction submissions using List.reverseRecOn with
  | nil => exact KeyedList.sorted_nil
  | append_singleton submissions submission ih =>
      rw [filled_append]
      exact sorted_submit ih submission

theorem mem_names_filled_iff (submissions : List Submission) (name : String) :
    name ∈ (filled submissions).names ↔
      ∃ submission ∈ submissions, submission.name = name ∧ submission.Succeeds := by
  have absent := KeyedList.get?_eq_none_iff name (filled submissions).tools
  have silent := find?_filled_eq_none_iff submissions name
  rw [find?] at silent
  rw [names, ← not_iff_not, ← absent, silent]
  push Not
  rfl

/-- Every tool stands under its own name. -/
theorem definitions_filled (submissions : List Submission) :
    (filled submissions).definitions.map ToolDefinition.name = (filled submissions).names := by
  rw [definitions, names, KeyedList.keys, List.map_map]
  apply List.map_congr_left
  rintro ⟨name, tool⟩ member
  have found := (sorted_filled submissions).get?_of_mem member
  obtain ⟨submission, ⟨-, -, -, named, -, -⟩, yields⟩ :=
    (find?_filled_iff submissions name tool).mp found
  exact yields.name_eq.trans named

theorem names_definition? (submissions : List Submission) :
    (filled submissions).names.map (filled submissions).definition? =
      (filled submissions).definitions.map some := by
  rw [definitions, names, KeyedList.keys, List.map_map, List.map_map]
  apply List.map_congr_left
  rintro ⟨name, tool⟩ member
  have found : (filled submissions).find? name = some tool :=
    (sorted_filled submissions).get?_of_mem member
  show (filled submissions).definition? name = some tool.definition
  rw [definition?, found, Option.map_some]

theorem names_encode_pairwise (submissions : List Submission) :
    ((filled submissions).names.map encode).Pairwise (· < ·) := by
  rw [names, KeyedList.keys, List.map_map]
  exact List.pairwise_map.mpr ((sorted_filled submissions).imp encode_lt_encode)

/-- The registry has as many tools as names have been registered. -/
theorem size_filled (submissions : List Submission) :
    (filled submissions).size =
      ((submissions.filter fun each => each.Succeeds).map Submission.name).dedup.length := by
  have counted : (filled submissions).size = (filled submissions).names.length := by
    rw [size, names, KeyedList.keys, List.length_map]
  rw [counted]
  -- Neither list has a name twice, so it is enough that they have the same names.
  apply List.Perm.length_eq
  apply (List.perm_ext_iff_of_nodup (sorted_filled submissions).nodup_keys
    (List.nodup_dedup _)).mpr
  intro name
  have member := mem_names_filled_iff submissions name
  rw [names] at member
  rw [member, List.mem_dedup, List.mem_map]
  constructor
  · rintro ⟨submission, submitted, named, succeeds⟩
    exact ⟨submission, List.mem_filter.mpr ⟨submitted, by simpa using succeeds⟩, named⟩
  · rintro ⟨submission, kept, named⟩
    obtain ⟨submitted, succeeds⟩ := List.mem_filter.mp kept
    exact ⟨submission, submitted, named, by simpa using succeeds⟩

/-- The name of the function in an entry of a chat request's tool list. -/
def entryName? (entry : Json) : Option String :=
  ((entry.get? "function").bind (Json.get? "name")).bind Json.asString?

theorem entryName?_chatEntry (definition : ToolDefinition) :
    entryName? definition.chatEntry = some definition.name := by
  simp [entryName?, ToolDefinition.chatEntry, Json.ofFields, KeyedList.ofList, Json.get?,
    KeyedList.get?_insert, Json.asString?]

end ToolRegistry

/-! ### Requests -/

/-- What a registry is after requests, and what one more registration does to it. -/
structure LastRegistrations (requests : List RegistryRequest) (registry : ToolRegistry) :
    Prop where
  tool_iff : ∀ name tool, registry.find? name = some tool ↔
    ∃ submission, LastSuccess (requests.flatMap RegistryRequest.submissions) name submission ∧
      submission.Yields tool
  definition_iff : ∀ name definition, registry.definition? name = some definition ↔
    ∃ submission, LastSuccess (requests.flatMap RegistryRequest.submissions) name submission ∧
      definition = ToolDefinition.of submission.owner.id submission.function ∧
        definition.pluginId = submission.owner.id ∧ definition.name = name
  mem_names_iff : ∀ name, name ∈ registry.names ↔
    ∃ submission ∈ requests.flatMap RegistryRequest.submissions,
      submission.name = name ∧ submission.Succeeds
  names_increase : (registry.names.map encode).Pairwise (· < ·)
  definitions_names : registry.definitions.map ToolDefinition.name = registry.names
  names_definition? : registry.names.map registry.definition? = registry.definitions.map some
  chatEntries_names :
    registry.chatEntries.map ToolRegistry.entryName? = registry.names.map some
  size_eq : registry.size =
    (((requests.flatMap RegistryRequest.submissions).filter fun each => each.Succeeds).map
      Submission.name).dedup.length
  succeeds_iff : ∀ submission : Submission, submission.Succeeds ↔
    ∃ next, registry.registerFunction submission.owner.id submission.number
      submission.function = .ok next
  failed : ∀ submission : Submission, ¬ submission.Succeeds →
    (∃ message, registry.registerFunction submission.owner.id submission.number
      submission.function = .error (.plugin submission.owner.id message)) ∧
      registry.perform (.function submission) = registry
  plugin : ∀ (handles : Handles) number handle, handles[number]? = some handle →
    handle.isActive = true →
      (registry.registerPlugin handles number).registry =
          registry.run (handle.tools.map fun function => .function ⟨handle, number, function⟩) ∧
        (registry.registerPlugin handles number).count =
          (handle.tools.map (Submission.mk handle number)).countP fun each => each.Succeeds
  inactive : ∀ (handles : Handles) number, handles.isActive number = false →
    (registry.registerPlugin handles number).registry = registry ∧
      (registry.registerPlugin handles number).count = 0

namespace ToolRegistry

theorem definition?_filled_iff (submissions : List Submission) (name : String)
    (definition : ToolDefinition) :
    (filled submissions).definition? name = some definition ↔
      ∃ submission, LastSuccess submissions name submission ∧
        definition = ToolDefinition.of submission.owner.id submission.function ∧
          definition.pluginId = submission.owner.id ∧ definition.name = name := by
  rw [definition?, Option.map_eq_some_iff]
  constructor
  · rintro ⟨tool, found, rfl⟩
    obtain ⟨submission, last, yields⟩ := (find?_filled_iff submissions name tool).mp found
    have named : submission.name = name := by
      obtain ⟨-, -, -, named, -, -⟩ := last
      exact named
    refine ⟨submission, last, yields.definition_eq, ?_, yields.name_eq.trans named⟩
    rw [yields.definition_eq]
    rfl
  · rintro ⟨submission, last, rfl, -, -⟩
    have succeeds : submission.Succeeds := by
      obtain ⟨-, -, -, -, succeeds, -⟩ := last
      exact succeeds
    obtain ⟨tool, yields⟩ := succeeds
    have found := (find?_filled_iff submissions name tool).mpr ⟨submission, last, yields⟩
    exact ⟨tool, found, yields.definition_eq⟩

theorem succeeds_iff_registerFunction (registry : ToolRegistry) (submission : Submission) :
    submission.Succeeds ↔
      ∃ next, registry.registerFunction submission.owner.id submission.number
        submission.function = .ok next := by
  constructor
  · rintro ⟨tool, yields⟩
    exact ⟨_, registry.registerFunction_of_yields yields⟩
  · rintro ⟨next, accepted⟩
    by_contra fails
    obtain ⟨message, refused⟩ := registry.registerFunction_of_not_succeeds fails
    rw [refused] at accepted
    cases accepted

theorem run_functions (registry : ToolRegistry) (submissions : List Submission) :
    registry.run (submissions.map .function) = submissions.foldl submit registry := by
  rw [run, List.foldl_map]
  rfl

/-- After any requests every name has the tool of its last registration that succeeded, and the
lists of the registry go through these names in the order of their bytes. -/
theorem run_lastRegistrations (requests : List RegistryRequest) :
    LastRegistrations requests (empty.run requests) := by
  rw [run_eq_filled]
  generalize gathered : requests.flatMap RegistryRequest.submissions = submissions
  constructor
  case tool_iff =>
    rw [gathered]
    exact find?_filled_iff submissions
  case definition_iff =>
    rw [gathered]
    exact definition?_filled_iff submissions
  case mem_names_iff =>
    rw [gathered]
    exact mem_names_filled_iff submissions
  case names_increase => exact names_encode_pairwise submissions
  case definitions_names => exact definitions_filled submissions
  case names_definition? => exact names_definition? submissions
  case chatEntries_names =>
    have entryNames : entryName? ∘ ToolDefinition.chatEntry = some ∘ ToolDefinition.name :=
      funext entryName?_chatEntry
    rw [chatEntries, List.map_map, entryNames, ← List.map_map, definitions_filled]
  case size_eq =>
    rw [gathered]
    exact size_filled submissions
  case succeeds_iff => exact succeeds_iff_registerFunction (filled submissions)
  case failed =>
    intro submission fails
    exact ⟨registerFunction_of_not_succeeds _ fails, submit_of_not_succeeds _ fails⟩
  case plugin =>
    intro handles number handle found _
    have submitted : (RegistryRequest.plugin handles number).submissions =
        handle.tools.map (Submission.mk handle number) := by
      rw [RegistryRequest.submissions, found]
    have functions : (handle.tools.map fun function => RegistryRequest.function
        ⟨handle, number, function⟩) =
          (handle.tools.map (Submission.mk handle number)).map .function := by
      rw [List.map_map]
      rfl
    rw [functions, run_functions, ← submitted]
    exact registerPlugin_eq _ handles number
  case inactive =>
    intro handles number inactive
    exact registerPlugin_of_not_active _ inactive

end ToolRegistry

end PluginHost
