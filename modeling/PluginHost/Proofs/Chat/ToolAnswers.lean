import PluginHost.Proofs.Chat.Rounds
import PluginHost.Proofs.Json.RecordFields
import PluginHost.Proofs.Tool.Invocation

/-!
# Answers to the calls of a model

A model may write anything as a call.  Every call is answered by one message of the same shape,
whose content is the result of the tool or tells what failed.  A conversation goes on with these
messages whatever they tell: it fails only by its request or by a reply of the provider.
-/

namespace PluginHost

open Text

/-! ### Reading a call -/

/-- The text of a member, empty if there is no member of that key or it is no text. -/
inductive MemberText (key : String) (value : Json) : String → Prop where
  | stated {text : String} (found : value.get? key = some (.string text)) :
      MemberText key value text
  | missing (noText : ∀ text, value.get? key ≠ some (.string text)) : MemberText key value ""

theorem textMember_eq_iff {key text : String} {value : Json} :
    textMember key value = text ↔ MemberText key value text := by
  have member : (value.field key).asString? = (value.get? key).bind Json.asString? := by
    rw [Json.field]
    cases value.get? key <;> rfl
  rw [textMember, member]
  constructor
  · rintro rfl
    cases stated : (value.get? key).bind Json.asString? with
    | some text => exact .stated (Json.bind_asString?_eq_some_iff.mp stated)
    | none =>
        refine .missing fun text found => ?_
        rw [Json.bind_asString?_eq_some_iff.mpr found] at stated
        cases stated
  · intro memberText
    cases memberText with
    | stated found => rw [Json.bind_asString?_eq_some_iff.mpr found, Option.getD_some]
    | missing noText =>
        cases stated : (value.get? key).bind Json.asString? with
        | none => rfl
        | some text => exact (noText text (Json.bind_asString?_eq_some_iff.mp stated)).elim

/-- The arguments for which a model's spelling stands. -/
inductive ArgumentsOf : Json → Json → Prop where
  | absent : ArgumentsOf .null (.object [])
  | blank {text : String} (isBlank : isBlankText text = true) :
      ArgumentsOf (.string text) (.object [])
  | spelled {text : String} {arguments : Json} (notBlank : isBlankText text = false)
      (parses : Json.parse text = .ok arguments) : ArgumentsOf (.string text) arguments
  | given {arguments : Json} (present : arguments ≠ .null)
      (noText : ∀ text, arguments ≠ .string text) : ArgumentsOf arguments arguments

/-- The error of a text that spells no arguments. -/
inductive MalformedArguments : Json → HostError → Prop where
  | intro {text problem : String} (notBlank : isBlankText text = false)
      (malformed : Json.parse text = .error problem) :
      MalformedArguments (.string text)
        (.invalidArgument ("tool call arguments are not valid JSON: " ++ problem))

theorem callArguments_of_argumentsOf {written arguments : Json}
    (stands : ArgumentsOf written arguments) : callArguments written = .ok arguments := by
  cases stands with
  | absent => rfl
  | blank isBlank => rw [callArguments, if_pos isBlank]
  | spelled notBlank parses =>
      rw [callArguments, if_neg (by simp [notBlank]), parses]
      rfl
  | given present noText =>
      cases written with
      | null => exact (present rfl).elim
      | string text => exact (noText text rfl).elim
      | _ => rfl

theorem callArguments_of_malformed {written : Json} {error : HostError}
    (malformed : MalformedArguments written error) : callArguments written = .error error := by
  cases malformed with
  | intro notBlank malformed =>
      rw [callArguments, if_neg (by simp [notBlank]), malformed]
      rfl

theorem argumentsOf_or_malformed (written : Json) :
    (∃ arguments, ArgumentsOf written arguments) ∨
      ∃ error, MalformedArguments written error := by
  cases written with
  | null => exact .inl ⟨_, .absent⟩
  | string text =>
      cases blank : isBlankText text with
      | true => exact .inl ⟨_, .blank blank⟩
      | false =>
          cases parsed : Json.parse text with
          | ok arguments => exact .inl ⟨_, .spelled blank parsed⟩
          | error problem => exact .inr ⟨_, .intro blank parsed⟩
  | _ => exact .inl ⟨_, .given nofun nofun⟩

/-- A call asks for a tool with arguments. -/
structure AsksFor (call : Json) (name : String) (arguments : Json) : Prop where
  named : MemberText "name" (call.field "function") name
  supplies : ArgumentsOf ((call.field "function").field "arguments") arguments

/-! ### What a call comes to -/

/-- A call with a result: its tool returns it in time. -/
def ModelCallSucceeds (registry : ToolRegistry) (handles : Handles) (limit : Span) (call : Json)
    (result : Json) : Prop :=
  ∃ name arguments, AsksFor call name arguments ∧
    ∃ passing : PassingCall registry handles name arguments,
      passing.prepared.run.EndsBefore limit ∧ passing.prepared.run.outcome = .returned result

/-- The error of a call: its arguments cannot be read, it is refused, or its tool fails. -/
inductive ModelCallFails (registry : ToolRegistry) (handles : Handles) (limit : Span)
    (call : Json) : HostError → Prop where
  | unreadable {error : HostError}
      (malformed : MalformedArguments ((call.field "function").field "arguments") error) :
      ModelCallFails registry handles limit call error
  | refused {name : String} {arguments : Json} {error : HostError}
      (asks : AsksFor call name arguments)
      (refusal : CallRefusal registry handles name arguments error) :
      ModelCallFails registry handles limit call error
  | execution {name : String} {arguments : Json} {error : HostError}
      (asks : AsksFor call name arguments)
      (passing : PassingCall registry handles name arguments)
      (failure : ExecutionFailure name passing.prepared.run limit error) :
      ModelCallFails registry handles limit call error

/-- How an outcome is told to a model. -/
inductive ToldAs : Except HostError Json → String → Prop where
  | text (text : String) : ToldAs (.ok (.string text)) text
  | value {value : Json} (noText : ∀ text, value ≠ .string text) : ToldAs (.ok value) value.compact
  | failure (error : HostError) :
      ToldAs (.error error) (Json.object [("error", .string error.message)]).compact

theorem toldAs_resultContent (outcome : Except HostError Json) :
    ToldAs outcome (resultContent outcome) := by
  cases outcome with
  | error error => exact .failure error
  | ok value =>
      cases value with
      | string text => exact .text text
      | _ => exact .value nofun

/-- The message that answers a call. -/
structure AnswersModelCall (registry : ToolRegistry) (handles : Handles) (limit : Span)
    (call message : Json) : Prop where
  /-- Its content tells the one outcome of the call, and it goes to the call's id. -/
  answered : ∃ (id content : String) (outcome : Except HostError Json),
    message = .object
      [("content", .string content), ("role", .string "tool"), ("tool_call_id", .string id)] ∧
      MemberText "id" call id ∧ ToldAs outcome content ∧
        (∀ result, outcome = .ok result ↔
          ModelCallSucceeds registry handles limit call result) ∧
        ∀ error, outcome = .error error ↔ ModelCallFails registry handles limit call error

namespace ToolRegistry

variable {registry : ToolRegistry} {handles : Handles} {limit : Span} {call : Json}

theorem runModelCall_of_asksFor {name : String} {arguments : Json}
    (asks : AsksFor call name arguments) :
    registry.runModelCall handles limit (.ofJson call) =
      registry.invokeWithin handles name arguments limit := by
  obtain rfl := textMember_eq_iff.mpr asks.named
  have reads := callArguments_of_argumentsOf asks.supplies
  simp only [runModelCall, ModelCall.ofJson, reads]

theorem runModelCall_of_malformed {error : HostError}
    (malformed : MalformedArguments ((call.field "function").field "arguments") error) :
    registry.runModelCall handles limit (.ofJson call) = ⟨.error error, none, []⟩ := by
  simp only [runModelCall, ModelCall.ofJson, callArguments_of_malformed malformed]

theorem asksFor_or_malformed (call : Json) :
    (∃ name arguments, AsksFor call name arguments) ∨
      ∃ error, MalformedArguments ((call.field "function").field "arguments") error := by
  rcases argumentsOf_or_malformed ((call.field "function").field "arguments") with
    ⟨arguments, supplies⟩ | malformed
  · exact .inl ⟨_, arguments, textMember_eq_iff.mp rfl, supplies⟩
  · exact .inr malformed

theorem runModelCall_eq_ok_iff {result : Json} :
    (registry.runModelCall handles limit (.ofJson call)).result = .ok result ↔
      ModelCallSucceeds registry handles limit call result := by
  constructor
  · intro succeeds
    rcases asksFor_or_malformed call with ⟨name, arguments, asks⟩ | ⟨error, malformed⟩
    · rw [runModelCall_of_asksFor asks] at succeeds
      exact ⟨name, arguments, asks, invokeWithin_eq_ok_iff.mp succeeds⟩
    · rw [runModelCall_of_malformed malformed] at succeeds
      cases succeeds
  · rintro ⟨name, arguments, asks, returns⟩
    rw [runModelCall_of_asksFor asks]
    exact invokeWithin_eq_ok_iff.mpr returns

theorem runModelCall_eq_error_iff {error : HostError} :
    (registry.runModelCall handles limit (.ofJson call)).result = .error error ↔
      ModelCallFails registry handles limit call error := by
  constructor
  · intro fails
    rcases asksFor_or_malformed call with ⟨name, arguments, asks⟩ | ⟨other, malformed⟩
    · rw [runModelCall_of_asksFor asks] at fails
      rcases invokeWithin_eq_error_iff.mp fails with refusal | ⟨passing, failure⟩
      · exact .refused asks refusal
      · exact .execution asks passing failure
    · rw [runModelCall_of_malformed malformed] at fails
      cases fails
      exact .unreadable malformed
  · intro failure
    cases failure with
    | unreadable malformed => rw [runModelCall_of_malformed malformed]
    | refused asks refusal =>
        rw [runModelCall_of_asksFor asks]
        exact invokeWithin_eq_error_iff.mpr (.inl refusal)
    | execution asks passing failure =>
        rw [runModelCall_of_asksFor asks]
        exact invokeWithin_eq_error_iff.mpr (.inr ⟨passing, failure⟩)

theorem toolMessage_eq (id content : String) :
    toolMessage id content = .object
      [("content", .string content), ("role", .string "tool"), ("tool_call_id", .string id)] := by
  have contentFirst : "content" < "role" := by decide
  have idLast : ¬ "tool_call_id" < "role" := by decide
  simp [toolMessage, Json.ofFields, KeyedList.ofList, KeyedList.insert, contentFirst, idLast]

theorem answerCall_answersModelCall (registry : ToolRegistry) (handles : Handles) (limit : Span)
    (call : Json) :
    AnswersModelCall registry handles limit call
      (registry.answerCall handles limit call).message where
  answered :=
    ⟨_, _, _, toolMessage_eq _ _, textMember_eq_iff.mp rfl, toldAs_resultContent _,
      fun _ => runModelCall_eq_ok_iff, fun _ => runModelCall_eq_error_iff⟩

end ToolRegistry

/-! ### Conversations go on -/

/-- The error of a request for which a conversation cannot be held. -/
inductive RequestFault (request : Json) : HostError → Prop where
  | notObject (notObject : ∀ fields, request ≠ .object fields) :
      RequestFault request (.invalidArgument "chat request must be a JSON object")
  | stream {fields : JsonFields} (object : request = .object fields)
      (stream : ChatProvider.asksForStream fields = true) :
      RequestFault request (.invalidArgument "streaming chat completions are not supported")
  | noList {fields : JsonFields} (object : request = .object fields)
      (noList : requestMessages? fields = none) :
      RequestFault request (.invalidArgument "`messages` must be an array")

namespace ChatProvider

variable (provider : ChatProvider) (replies : ProviderReplies)

/-- A request is refused at once, or it is an object that is posted, however calls are answered. -/
theorem refused_or_accepted (registry : ToolRegistry) (request : Json) :
    (∃ error, RequestFault request error ∧
      ∀ answers, provider.completeWith registry answers request replies = .refused error) ∨
      ∃ fields, request = .object fields ∧ ∀ answers,
        provider.completeWith registry answers request replies =
          provider.converse answers provider.maxToolRounds (withTools registry fields) replies := by
  cases request with
  | object fields =>
      cases stream : asksForStream fields with
      | true =>
          exact .inl ⟨_, .stream rfl stream, fun answers =>
            provider.completeWith_of_stream answers replies registry stream⟩
      | false =>
          exact .inr ⟨fields, rfl, fun answers =>
            provider.completeWith_of_accepted answers replies registry stream⟩
  | _ => exact .inl ⟨_, .notObject nofun, fun _ => rfl⟩

/-- A conversation comes to the same result after as many posts and rounds, however calls are
answered. -/
theorem converse_outline (left : Nat) (request : JsonFields) :
    ∃ result count, (∀ error, result = .error error →
        requestMessages? request = none ∧
            error = .invalidArgument "`messages` must be an array" ∨
          (replies count).value provider.completionsUrl = .error error) ∧
      ∀ answers, (provider.converse answers left request replies).result = result ∧
        (provider.converse answers left request replies).posts.length = count + 1 ∧
          (provider.converse answers left request replies).rounds.length = count := by
  cases list : requestMessages? request with
  | some messages =>
      obtain ⟨rounds, within, asks, last⟩ := provider.exists_rounds replies left
      refine ⟨_, rounds, fun error => .inr, fun answers => ?_⟩
      obtain ⟨closing, course⟩ :=
        provider.converse_of_rounds answers replies list within asks last
      rw [course]
      simp
  | none =>
      by_cases noCalls : provider.callsAt replies 0 = []
      · refine ⟨_, 0, fun error => .inr, fun answers => ?_⟩
        rw [provider.converse_of_no_calls answers replies left request noCalls]
        exact ⟨rfl, rfl, rfl⟩
      · cases left with
        | zero =>
            refine ⟨_, 0, fun error => .inr, fun answers => ?_⟩
            rw [provider.converse_at_limit answers replies request noCalls]
            exact ⟨rfl, rfl, rfl⟩
        | succ left =>
            refine ⟨.error (.invalidArgument "`messages` must be an array"), 0, ?_,
              fun answers => ?_⟩
            · rintro error ⟨⟩
              exact .inl ⟨rfl, rfl⟩
            · rw [provider.converse_of_no_list answers replies left noCalls list]
              exact ⟨rfl, rfl, rfl⟩

/-- Every round that there is answers the calls of its reply, and its messages stand at the end of
the next post. -/
theorem converse_round (answers : CallAnswers) (left : Nat) (request : JsonFields) {number : Nat}
    {round : List ToolAnswer}
    (found : (provider.converse answers left request replies).rounds[number]? = some round) :
    provider.callsAt replies number ≠ [] ∧ round = provider.roundAt answers replies number ∧
      ∃ post before,
        (provider.converse answers left request replies).posts[number + 1]? = some post ∧
          requestMessages? post = some (before ++ round.map ToolAnswer.message) := by
  obtain ⟨count, -, list, asks, posts, rounds⟩ :=
    provider.converse_posts_rounds answers replies left request
  rw [rounds] at found
  obtain ⟨less, rfl⟩ := (getElem?_map_range_eq_some_iff _ _ _ _).mp found
  obtain ⟨messages, list⟩ := Option.ne_none_iff_exists'.mp (list (by omega))
  rw [list, Option.getD_some] at posts
  have next := provider.requestMessages?_requestAfter answers replies list (number + 1)
  have grown : messages ++ (List.range (number + 1)).flatMap (provider.messagesAt answers replies) =
      (messages ++ (List.range number).flatMap (provider.messagesAt answers replies) ++
        [replyMessage (provider.valueAt replies number)]) ++
          (provider.roundAt answers replies number).map ToolAnswer.message := by
    simp [List.range_succ, messagesAt]
  rw [grown] at next
  refine ⟨asks number less, rfl, _, _, ?_, next⟩
  rw [posts]
  exact (getElem?_map_range_eq_some_iff _ _ _ _).mpr ⟨by omega, rfl⟩

end ChatProvider

/-- How a conversation deals with the calls of a model, whatever they are and come to. -/
structure AnswersEveryCall (provider : ChatProvider) (registry : ToolRegistry) (limit : Span)
    (course : Nat → Nat → ToolRegistry × Handles) (request : Json) (replies : ProviderReplies)
    (conversation : Conversation) : Prop where
  answered : ∀ (tools : ToolRegistry) (handles : Handles) (call : Json),
    AnswersModelCall tools handles limit call (tools.answerCall handles limit call).message
  /-- Each call of a reply is answered in its place, by the tools and instances that there are
  then. -/
  rounds : ∀ (number : Nat) round, conversation.rounds[number]? = some round →
    ∃ value, (replies number).Holds value ∧ round.length = (replyCalls value).length ∧
      ∀ (place : Nat) call, (replyCalls value)[place]? = some call →
        ∃ answer, round[place]? = some answer ∧
          AnswersModelCall (course number place).1 (course number place).2 limit call
            answer.message
  told : ∀ (number : Nat) round, conversation.rounds[number]? = some round →
    ∃ post before, conversation.posts[number + 1]? = some post ∧
      requestMessages? post = some (before ++ round.map ToolAnswer.message)
  /-- The result is the same as if the calls were answered in any other way. -/
  unaffected : ∀ answers,
    (provider.completeWith registry answers request replies).result = conversation.result ∧
      (provider.completeWith registry answers request replies).posts.length =
          conversation.posts.length ∧
        (provider.completeWith registry answers request replies).rounds.length =
          conversation.rounds.length
  /-- It fails by its request, or by the last reply that was asked for. -/
  faults : ∀ error, conversation.result = .error error →
    RequestFault request error ∨ ∃ number message, conversation.posts.length = number + 1 ∧
      (∀ value, ¬ (replies number).Holds value) ∧ error = .provider message

/-- Every call of a model is answered by a message, and no call makes a conversation fail or keeps
another call from its answer. -/
theorem ChatProvider.completeWith_answersEveryCall (provider : ChatProvider)
    (registry : ToolRegistry) (limit : Span) (course : Nat → Nat → ToolRegistry × Handles)
    (request : Json) (replies : ProviderReplies) :
    AnswersEveryCall provider registry limit course request replies
      (provider.completeWith registry (.along limit course) request replies) := by
  have answered (tools : ToolRegistry) (handles : Handles) (call : Json) :=
    tools.answerCall_answersModelCall handles limit call
  rcases provider.refused_or_accepted replies registry request with
    ⟨error, fault, refused⟩ | ⟨fields, rfl, accepted⟩
  · rw [refused]
    constructor
    case answered => exact answered
    case rounds => simp [Conversation.refused]
    case told => simp [Conversation.refused]
    case unaffected =>
      intro answers
      rw [refused]
      exact ⟨rfl, rfl, rfl⟩
    case faults =>
      rintro _ ⟨⟩
      exact .inl fault
  · rw [accepted]
    obtain ⟨result, count, fails, outline⟩ :=
      provider.converse_outline replies provider.maxToolRounds (withTools registry fields)
    obtain ⟨result_eq, posts_eq, rounds_eq⟩ := outline (.along limit course)
    constructor
    case answered => exact answered
    case rounds =>
      intro number round found
      obtain ⟨asks, rfl, -⟩ := provider.converse_round replies _ _ _ found
      have good := provider.value_of_callsAt replies asks
      refine ⟨_, (ProviderReply.value_eq_ok_iff _ _ _).mp good, List.length_mapIdx, ?_⟩
      intro place call among
      refine ⟨_, ?_, answered (course number place).1 (course number place).2 call⟩
      rw [roundAt, List.getElem?_mapIdx, callsAt, among]
      rfl
    case told =>
      intro number round found
      exact (provider.converse_round replies _ _ _ found).2.2
    case unaffected =>
      intro answers
      obtain ⟨otherResult_eq, otherPosts_eq, otherRounds_eq⟩ := outline answers
      rw [accepted, result_eq, posts_eq, rounds_eq]
      exact ⟨otherResult_eq, otherPosts_eq, otherRounds_eq⟩
    case faults =>
      intro error failing
      rw [result_eq] at failing
      rcases fails error failing with ⟨noList, rfl⟩ | failed
      · rw [requestMessages?_withTools] at noList
        exact .inl (.noList rfl noList)
      · obtain ⟨message, rfl⟩ := ProviderReply.value_eq_provider_error failed
        refine .inr ⟨count, message, posts_eq, ?_, rfl⟩
        intro value holds
        rw [(ProviderReply.value_eq_ok_iff provider.completionsUrl _ _).mpr holds] at failed
        cases failed

end PluginHost
