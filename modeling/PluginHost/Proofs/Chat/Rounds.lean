import Mathlib.Tactic.ByContra
import PluginHost.Chat.Conversation

/-!
# The rounds of a conversation

A provider may answer anything.  A conversation goes through its replies as long as they ask for
tools and rounds are left; the first reply of another kind ends it, and so does a failure.  How
often the provider is asked and which calls are answered depends on nothing else.
-/

namespace PluginHost

/-- A reply holds a value: it came with a status of success and its body is JSON. -/
inductive ProviderReply.Holds : ProviderReply → Json → Prop where
  | answered {status : Nat} {bytes : List UInt8} {value : Json}
      (success : 200 ≤ status ∧ status < 300)
      (parsed : Json.read (Text.symbolsOf (Text.readableText bytes)) = .ok value) :
      Holds (.answered status bytes) value

theorem ProviderReply.value_eq_ok_iff (url : String) (reply : ProviderReply) (value : Json) :
    reply.value url = .ok value ↔ reply.Holds value := by
  constructor
  · intro good
    cases reply with
    | unreachable => cases good
    | brokenOff => cases good
    | answered status bytes =>
        rw [ProviderReply.value] at good
        split at good
        · rename_i success
          cases parsed : Json.read (Text.symbolsOf (Text.readableText bytes)) with
          | error fault => simp [parsed, Except.mapError] at good
          | ok found =>
              simp only [parsed, Except.mapError, Except.ok.injEq] at good
              subst found
              exact .answered (by simpa using success) parsed
        · cases good
  · intro holds
    cases holds with
    | @answered status bytes _ success parsed =>
        have inRange : (200 ≤ status && status < 300) = true := by simpa using success
        rw [ProviderReply.value, if_pos inRange, parsed]
        rfl

theorem ProviderReply.Holds.unique {reply : ProviderReply} {value other : Json}
    (holds : reply.Holds value) (otherHolds : reply.Holds other) : value = other := by
  rw [← ProviderReply.value_eq_ok_iff ""] at holds otherHolds
  exact Except.ok.inj (holds.symm.trans otherHolds)

/-- A reply asks for tools: it holds a value whose message has calls. -/
def ProviderReply.Asks (reply : ProviderReply) : Prop :=
  ∃ value, reply.Holds value ∧ replyCalls value ≠ []

instance (reply : ProviderReply) : Decidable reply.Asks :=
  match good : reply.value "" with
  | .error _ =>
    .isFalse (by
      rintro ⟨value, holds, -⟩
      rw [(ProviderReply.value_eq_ok_iff "" reply value).mpr holds] at good
      cases good)
  | .ok value =>
    decidable_of_iff (replyCalls value ≠ []) (by
      have holds := (ProviderReply.value_eq_ok_iff "" reply value).mp good
      constructor
      · intro calls
        exact ⟨value, holds, calls⟩
      · rintro ⟨other, otherHolds, calls⟩
        rwa [holds.unique otherHolds])

/-- Whatever is wrong with a reply is told as an error of the provider. -/
theorem ProviderReply.value_eq_provider_error {url : String} {reply : ProviderReply}
    {error : HostError} (failed : reply.value url = .error error) :
    ∃ message, error = .provider message := by
  cases reply with
  | unreachable =>
      rw [ProviderReply.value, unansweredError] at failed
      split at failed
      all_goals
        cases failed
        exact ⟨_, rfl⟩
  | brokenOff =>
      cases failed
      exact ⟨_, rfl⟩
  | answered status bytes =>
      rw [ProviderReply.value] at failed
      split at failed
      · cases parsed : Json.read (Text.symbolsOf (Text.readableText bytes)) with
        | error fault =>
            simp only [parsed, Except.mapError, Except.error.injEq] at failed
            exact ⟨_, failed.symm⟩
        | ok found => simp [parsed, Except.mapError] at failed
      · cases failed
        exact ⟨_, rfl⟩

namespace Conversation

def afterRounds (posts : List JsonFields) (rounds : List (List ToolAnswer))
    (rest : Conversation) : Conversation :=
  ⟨rest.result, posts ++ rest.posts, rounds ++ rest.rounds, rest.closing⟩

theorem afterRounds_afterRound (posts : List JsonFields) (rounds : List (List ToolAnswer))
    (post : JsonFields) (round : List ToolAnswer) (rest : Conversation) :
    afterRounds posts rounds (afterRound post round rest) =
      afterRounds (posts ++ [post]) (rounds ++ [round]) rest := by
  simp [afterRounds, afterRound]

end Conversation

theorem CallAnswers.after_after (answers : CallAnswers) (count : Nat) :
    (answers.after count).after 1 = answers.after (count + 1) := by
  funext round
  rw [after, after, after]
  congr 1
  omega

theorem ProviderReplies.after_after (replies : ProviderReplies) (count : Nat) :
    (replies.after count).after 1 = replies.after (count + 1) := by
  funext number
  rw [after, after, after]
  congr 1
  omega

theorem getElem?_map_range_eq_some_iff {α : Type} (entry : Nat → α) (count number : Nat)
    (value : α) :
    ((List.range count).map entry)[number]? = some value ↔
      number < count ∧ entry number = value := by
  rw [List.getElem?_eq_some_iff]
  simp

namespace ChatProvider

variable (provider : ChatProvider) (answers : CallAnswers) (replies : ProviderReplies)

/-- The value of the reply of a number, null if it fails. -/
def valueAt (number : Nat) : Json :=
  (((replies number).value provider.completionsUrl).toOption).getD .null

/-- The calls that the reply of a number asks for, none if it fails. -/
def callsAt (number : Nat) : List Json :=
  replyCalls (provider.valueAt replies number)

/-- The answers of the round of a number. -/
def roundAt (number : Nat) : List ToolAnswer :=
  (provider.callsAt replies number).mapIdx (answers number)

/-- The messages that the round of a number puts to the end of the request. -/
def messagesAt (number : Nat) : List Json :=
  replyMessage (provider.valueAt replies number) ::
    (provider.roundAt answers replies number).map ToolAnswer.message

/-- The request that is posted after a number of rounds. -/
def requestAfter (request : JsonFields) (messages : List Json) : Nat → JsonFields
  | 0 => request
  | rounds + 1 =>
    withMessages (requestAfter request messages rounds)
      (messages ++ (List.range (rounds + 1)).flatMap (provider.messagesAt answers replies))

theorem valueAt_of_ok {number : Nat} {value : Json}
    (good : (replies number).value provider.completionsUrl = .ok value) :
    provider.valueAt replies number = value := by
  rw [valueAt, good]
  rfl

theorem callsAt_of_error {number : Nat} {error : HostError}
    (failed : (replies number).value provider.completionsUrl = .error error) :
    provider.callsAt replies number = [] := by
  rw [callsAt, valueAt, failed]
  rfl

theorem value_of_callsAt {number : Nat} (asks : provider.callsAt replies number ≠ []) :
    (replies number).value provider.completionsUrl = .ok (provider.valueAt replies number) := by
  cases outcome : (replies number).value provider.completionsUrl with
  | error error => exact (asks (provider.callsAt_of_error replies outcome)).elim
  | ok value => rw [provider.valueAt_of_ok replies outcome]

theorem callsAt_ne_nil_iff (number : Nat) :
    provider.callsAt replies number ≠ [] ↔ (replies number).Asks := by
  constructor
  · intro asks
    have good := provider.value_of_callsAt replies asks
    exact ⟨_, (ProviderReply.value_eq_ok_iff _ _ _).mp good, asks⟩
  · rintro ⟨value, holds, asks⟩
    have good := (ProviderReply.value_eq_ok_iff provider.completionsUrl _ _).mpr holds
    rwa [callsAt, provider.valueAt_of_ok replies good]

theorem requestMessages?_withMessages (request : JsonFields) (messages : List Json) :
    requestMessages? (withMessages request messages) = some messages := by
  rw [requestMessages?, withMessages, KeyedList.get?_insert, if_pos rfl]

theorem requestMessages?_requestAfter {request : JsonFields} {messages : List Json}
    (list : requestMessages? request = some messages) (rounds : Nat) :
    requestMessages? (provider.requestAfter answers replies request messages rounds) =
      some (messages ++ (List.range rounds).flatMap (provider.messagesAt answers replies)) := by
  cases rounds with
  | zero => simpa [requestAfter] using list
  | succ rounds => rw [requestAfter, requestMessages?_withMessages]

theorem callsAt_after (count : Nat) :
    provider.callsAt (replies.after count) 0 = provider.callsAt replies count := by
  unfold callsAt valueAt ProviderReplies.after
  rw [Nat.zero_add]

theorem roundAt_after (count : Nat) :
    provider.roundAt (answers.after count) (replies.after count) 0 =
      provider.roundAt answers replies count := by
  rw [roundAt, callsAt_after, CallAnswers.after, Nat.zero_add]
  rfl

theorem messagesAt_after (count : Nat) :
    provider.messagesAt (answers.after count) (replies.after count) 0 =
      provider.messagesAt answers replies count := by
  rw [messagesAt, roundAt_after]
  unfold messagesAt valueAt ProviderReplies.after
  rw [Nat.zero_add]

/-! ### One post -/

/-- A reply that fails or asks for nothing ends the conversation. -/
theorem converse_of_no_calls (left : Nat) (request : JsonFields)
    (noCalls : provider.callsAt replies 0 = []) :
    provider.converse answers left request replies =
      .ended request ((replies 0).value provider.completionsUrl) := by
  unfold converse
  cases outcome : (replies 0).value provider.completionsUrl with
  | error error => rfl
  | ok value =>
      have noCalls : replyCalls value = [] := by
        rwa [callsAt, provider.valueAt_of_ok replies outcome] at noCalls
      dsimp only
      rw [noCalls]

/-- When no round is left the reply ends the conversation, even if it asks for tools. -/
theorem converse_at_limit (request : JsonFields) (asks : provider.callsAt replies 0 ≠ []) :
    provider.converse answers 0 request replies =
      ⟨(replies 0).value provider.completionsUrl, [request], [],
        [.roundLimitReached provider.maxToolRounds]⟩ := by
  obtain ⟨call, calls, asked⟩ := List.exists_cons_of_ne_nil asks
  have good := provider.value_of_callsAt replies asks
  rw [callsAt] at asked
  unfold converse
  rw [good]
  dsimp only
  rw [asked]
  rfl

/-- A reply that asks for tools leads to a round of them and the next post. -/
theorem converse_of_calls (left : Nat) {request : JsonFields} {messages : List Json}
    (asks : provider.callsAt replies 0 ≠ [])
    (list : requestMessages? request = some messages) :
    provider.converse answers (left + 1) request replies =
      .afterRound request (provider.roundAt answers replies 0)
        (provider.converse (answers.after 1) left
          (withMessages request (messages ++ provider.messagesAt answers replies 0))
          (replies.after 1)) := by
  obtain ⟨call, calls, asked⟩ := List.exists_cons_of_ne_nil asks
  have good := provider.value_of_callsAt replies asks
  rw [messagesAt, roundAt, asked]
  rw [callsAt] at asked
  rw [converse, good]
  dsimp only
  rw [asked]
  dsimp only
  rw [list]

/-- A reply that asks for tools is an error if the request's messages are no list. -/
theorem converse_of_no_list (left : Nat) {request : JsonFields}
    (asks : provider.callsAt replies 0 ≠ []) (noList : requestMessages? request = none) :
    provider.converse answers (left + 1) request replies =
      .ended request (.error (.invalidArgument "`messages` must be an array")) := by
  obtain ⟨call, calls, asked⟩ := List.exists_cons_of_ne_nil asks
  have good := provider.value_of_callsAt replies asks
  rw [callsAt] at asked
  rw [converse, good]
  dsimp only
  rw [asked]
  dsimp only
  rw [noList]

/-! ### All posts -/

/-- As long as replies ask for tools and rounds are left, the conversation goes on. -/
theorem converse_eq_afterRounds {left : Nat} {request : JsonFields} {messages : List Json}
    (list : requestMessages? request = some messages) {rounds : Nat} (within : rounds ≤ left)
    (asks : ∀ number < rounds, provider.callsAt replies number ≠ []) :
    provider.converse answers left request replies =
      .afterRounds
        ((List.range rounds).map (provider.requestAfter answers replies request messages))
        ((List.range rounds).map (provider.roundAt answers replies))
        (provider.converse (answers.after rounds) (left - rounds)
          (provider.requestAfter answers replies request messages rounds)
          (replies.after rounds)) := by
  -- The rounds that are done grow at their end, by what the rest of the conversation does first.
  induction rounds with
  | zero => rfl
  | succ rounds ih =>
      have next : provider.callsAt (replies.after rounds) 0 ≠ [] := by
        rw [callsAt_after]
        exact asks rounds (Nat.lt_succ_self rounds)
      have more : left - rounds = left - (rounds + 1) + 1 := by omega
      rw [ih (by omega) fun number less => asks number (by omega), more,
        provider.converse_of_calls _ _ _ next
          (provider.requestMessages?_requestAfter answers replies list rounds),
        roundAt_after, messagesAt_after, Conversation.afterRounds_afterRound,
        CallAnswers.after_after, ProviderReplies.after_after, List.append_assoc,
        List.range_succ, List.map_append, List.map_append]
      rw [requestAfter, List.range_succ, List.flatMap_append]
      simp

theorem exists_rounds (left : Nat) :
    ∃ rounds ≤ left, (∀ number < rounds, provider.callsAt replies number ≠ []) ∧
      (rounds < left → provider.callsAt replies rounds = []) := by
  induction left with
  | zero => exact ⟨0, Nat.le_refl 0, by simp, by simp⟩
  | succ left ih =>
      obtain ⟨rounds, within, asks, last⟩ := ih
      by_cases ended : rounds < left ∨ provider.callsAt replies rounds = []
      · refine ⟨rounds, by omega, asks, ?_⟩
        intro _
        rcases ended with less | noCalls
        · exact last less
        · exact noCalls
      · obtain ⟨atLimit, more⟩ := not_or.mp ended
        obtain rfl : rounds = left := by omega
        refine ⟨rounds + 1, Nat.le_refl _, ?_, by omega⟩
        intro number less
        rcases Nat.lt_succ_iff_lt_or_eq.mp less with earlier | rfl
        · exact asks number earlier
        · exact more

/-- A conversation comes to what the last reply comes to: the first one that does not ask for
tools, or the one after as many rounds as there may be. -/
theorem converse_of_rounds {left rounds : Nat} {request : JsonFields} {messages : List Json}
    (list : requestMessages? request = some messages) (within : rounds ≤ left)
    (asks : ∀ number < rounds, provider.callsAt replies number ≠ [])
    (last : rounds < left → provider.callsAt replies rounds = []) :
    ∃ closing, provider.converse answers left request replies =
      ⟨(replies rounds).value provider.completionsUrl,
        (List.range (rounds + 1)).map (provider.requestAfter answers replies request messages),
        (List.range rounds).map (provider.roundAt answers replies), closing⟩ := by
  have final : (replies.after rounds) 0 = replies rounds :=
    congrArg replies (Nat.zero_add rounds)
  rw [provider.converse_eq_afterRounds answers replies list within asks, List.range_succ,
    List.map_append]
  by_cases noCalls : provider.callsAt replies rounds = []
  · refine ⟨[], ?_⟩
    rw [provider.converse_of_no_calls _ _ _ _ (by rw [callsAt_after, noCalls]), final]
    simp [Conversation.afterRounds, Conversation.ended]
  · have atLimit : left - rounds = 0 := by
      rcases Nat.lt_or_ge rounds left with more | full
      · exact (noCalls (last more)).elim
      · omega
    refine ⟨[.roundLimitReached provider.maxToolRounds], ?_⟩
    rw [atLimit, provider.converse_at_limit _ _ _ (by rwa [callsAt_after]), final]
    simp [Conversation.afterRounds]

/-- A request whose messages are no list is posted once. -/
theorem converse_posts_of_no_list (left : Nat) {request : JsonFields}
    (noList : requestMessages? request = none) :
    (provider.converse answers left request replies).posts = [request] ∧
      (provider.converse answers left request replies).rounds = [] := by
  by_cases noCalls : provider.callsAt replies 0 = []
  · rw [provider.converse_of_no_calls _ _ _ _ noCalls]
    exact ⟨rfl, rfl⟩
  · cases left with
    | zero =>
        rw [provider.converse_at_limit _ _ _ noCalls]
        exact ⟨rfl, rfl⟩
    | succ left =>
        rw [provider.converse_of_no_list _ _ _ noCalls noList]
        exact ⟨rfl, rfl⟩

theorem converse_posts_rounds (left : Nat) (request : JsonFields) :
    ∃ rounds ≤ left, (0 < rounds → requestMessages? request ≠ none) ∧
      (∀ number < rounds, provider.callsAt replies number ≠ []) ∧
        (provider.converse answers left request replies).posts =
            (List.range (rounds + 1)).map (provider.requestAfter answers replies request
              ((requestMessages? request).getD [])) ∧
          (provider.converse answers left request replies).rounds =
            (List.range rounds).map (provider.roundAt answers replies) := by
  cases list : requestMessages? request with
  | none =>
      obtain ⟨posts, noRounds⟩ := provider.converse_posts_of_no_list answers replies left list
      exact ⟨0, Nat.zero_le left, by simp, by simp, posts, noRounds⟩
  | some messages =>
      obtain ⟨rounds, within, asks, last⟩ := provider.exists_rounds replies left
      obtain ⟨closing, course⟩ :=
        provider.converse_of_rounds answers replies list within asks last
      rw [course]
      exact ⟨rounds, within, by simp, asks, rfl, rfl⟩

/-! ### Requests -/

theorem get?_withTools_of_ne (registry : ToolRegistry) (request : JsonFields) {key : String}
    (other : key ≠ "tools") :
    KeyedList.get? key (withTools registry request) = KeyedList.get? key request := by
  rw [withTools]
  split
  · rfl
  · rw [KeyedList.get?_insert, if_neg (Ne.symm other)]

theorem requestMessages?_withTools (registry : ToolRegistry) (request : JsonFields) :
    requestMessages? (withTools registry request) = requestMessages? request := by
  rw [requestMessages?, get?_withTools_of_ne registry request (by decide), requestMessages?]

theorem completeWith_of_stream (registry : ToolRegistry) {fields : JsonFields}
    (stream : asksForStream fields = true) :
    provider.completeWith registry answers (.object fields) replies =
      .refused (.invalidArgument "streaming chat completions are not supported") := by
  rw [completeWith, stream]
  rfl

theorem completeWith_of_accepted (registry : ToolRegistry) {fields : JsonFields}
    (noStream : asksForStream fields = false) :
    provider.completeWith registry answers (.object fields) replies =
      provider.converse answers provider.maxToolRounds (withTools registry fields) replies := by
  rw [completeWith, noStream]
  rfl

end ChatProvider

/-- How often a provider is asked, which calls are answered and what the result is. -/
structure BoundedConversation (provider : ChatProvider) (answers : CallAnswers)
    (replies : ProviderReplies) (conversation : Conversation) : Prop where
  posts_le : conversation.posts.length ≤ provider.maxToolRounds + 1
  rounds_le : conversation.rounds.length ≤ provider.maxToolRounds
  posted_iff : ∀ number, number < conversation.posts.length ↔
    number ≤ provider.maxToolRounds ∧ ∀ earlier < number, (replies earlier).Asks
  /-- Replies that ask for tools are followed by one that does not. -/
  settled : ∀ asking value, asking ≤ provider.maxToolRounds →
    (∀ number < asking, (replies number).Asks) →
    (replies asking).Holds value → replyCalls value = [] →
    conversation.result = .ok value ∧ conversation.posts.length = asking + 1 ∧
      conversation.rounds.length = asking
  /-- Replies go on asking for tools when no round is left. -/
  limited : ∀ value, (∀ number ≤ provider.maxToolRounds, (replies number).Asks) →
    (replies provider.maxToolRounds).Holds value →
    conversation.result = .ok value ∧
      conversation.posts.length = provider.maxToolRounds + 1 ∧
      conversation.rounds.length = provider.maxToolRounds
  failed : ∀ number < conversation.posts.length, (∀ value, ¬ (replies number).Holds value) →
    (∃ message, conversation.result = .error (.provider message)) ∧
      conversation.posts.length = number + 1 ∧ conversation.rounds.length = number
  /-- The rounds answer the calls of one reply each. -/
  answered : ∀ number round, conversation.rounds[number]? = some round →
    ∃ value, (replies number).Holds value ∧
      round = (replyCalls value).mapIdx (answers number)

/-- Whatever the provider replies and however calls are answered, a conversation ends within its
rounds, with the first reply that asks for no tools, with the one at the limit, or with the first
failure. -/
theorem ChatProvider.completeWith_bounded (provider : ChatProvider) (registry : ToolRegistry)
    (answers : CallAnswers) (replies : ProviderReplies) (fields : JsonFields)
    (noStream : asksForStream fields = false) (list : requestMessages? fields ≠ none) :
    BoundedConversation provider answers replies
      (provider.completeWith registry answers (.object fields) replies) := by
  obtain ⟨messages, list⟩ := Option.ne_none_iff_exists'.mp list
  rw [← requestMessages?_withTools registry] at list
  obtain ⟨rounds, within, asks, last⟩ :=
    provider.exists_rounds replies provider.maxToolRounds
  obtain ⟨closing, course⟩ := provider.converse_of_rounds answers replies list within asks last
  rw [provider.completeWith_of_accepted answers replies registry noStream, course]
  simp only [provider.callsAt_ne_nil_iff] at asks
  -- The last reply is the first that does not ask, unless the rounds are used up.
  have silent : rounds < provider.maxToolRounds → ¬ (replies rounds).Asks := by
    intro less asking
    exact (provider.callsAt_ne_nil_iff replies rounds).mpr asking (last less)
  have reached : ∀ asking ≤ provider.maxToolRounds,
      (∀ number < asking, (replies number).Asks) → asking ≤ rounds := by
    intro asking atMost askings
    by_contra beyond
    exact silent (by omega) (askings rounds (by omega))
  constructor
  case posts_le => simpa using within
  case rounds_le => simpa using within
  case posted_iff =>
    intro number
    rw [List.length_map, List.length_range]
    constructor
    · intro less
      exact ⟨by omega, fun earlier before => asks earlier (by omega)⟩
    · rintro ⟨atMost, askings⟩
      exact Nat.lt_succ_of_le (reached number atMost askings)
  case settled =>
    intro asking value atMost askings holds noCalls
    have notAsking : ¬ (replies asking).Asks := by
      rintro ⟨other, otherHolds, calls⟩
      rw [← holds.unique otherHolds] at calls
      exact calls noCalls
    obtain rfl : asking = rounds := by
      apply Nat.le_antisymm (reached asking atMost askings)
      by_contra before
      exact notAsking (asks asking (by omega))
    exact ⟨(ProviderReply.value_eq_ok_iff _ _ _).mpr holds, by simp, by simp⟩
  case limited =>
    intro value askings holds
    obtain rfl : provider.maxToolRounds = rounds :=
      Nat.le_antisymm (reached _ (Nat.le_refl _) fun number less => askings number (by omega))
        within
    exact ⟨(ProviderReply.value_eq_ok_iff _ _ _).mpr holds, by simp, by simp⟩
  case failed =>
    intro number less fails
    rw [List.length_map, List.length_range] at less
    obtain rfl : number = rounds := by
      by_contra other
      obtain ⟨value, holds, -⟩ := asks number (by omega)
      exact fails value holds
    refine ⟨?_, by simp, by simp⟩
    dsimp only
    cases outcome : (replies number).value provider.completionsUrl with
    | ok value => exact (fails value ((ProviderReply.value_eq_ok_iff _ _ _).mp outcome)).elim
    | error error =>
        obtain ⟨message, rfl⟩ := ProviderReply.value_eq_provider_error outcome
        exact ⟨message, rfl⟩
  case answered =>
    intro number round found
    obtain ⟨less, rfl⟩ := (getElem?_map_range_eq_some_iff _ _ _ _).mp found
    obtain ⟨value, holds, -⟩ := asks number less
    refine ⟨value, holds, ?_⟩
    have good := (ProviderReply.value_eq_ok_iff provider.completionsUrl _ _).mpr holds
    rw [roundAt, callsAt, provider.valueAt_of_ok replies good]

/-- A provider that asks for a tool without end is asked once more than there are rounds. -/
theorem ChatProvider.completeWith_bounded_endless :
    let reply := ProviderReply.answered 200
      (Text.encode "\x7b\"choices\":[\x7b\"message\":\x7b\"tool_calls\":[null]\x7d\x7d]\x7d")
    let conversation := ChatProvider.completeWith ⟨"http://localhost", none, 2⟩ .empty
      (.along ⟨0⟩ fun _ _ => (.empty, [])) (.object []) fun _ => reply
    asksForStream [] = false ∧ requestMessages? [] ≠ none ∧
      conversation.posts.length = 3 ∧ conversation.rounds.length = 2 ∧
        ∃ value, conversation.result = .ok value ∧ replyCalls value ≠ [] := by
  intro reply conversation
  have accepted : asksForStream [] = false := rfl
  have list : requestMessages? [] ≠ none := by decide
  have asks : reply.Asks := by decide +kernel
  have bounded := completeWith_bounded ⟨"http://localhost", none, 2⟩ .empty
    (.along ⟨0⟩ fun _ _ => (.empty, [])) (fun _ => reply) [] accepted list
  obtain ⟨value, holds, calls⟩ := asks
  obtain ⟨result, posts, rounds⟩ := bounded.limited value (fun _ _ => ⟨value, holds, calls⟩) holds
  exact ⟨accepted, list, posts, rounds, value, result, calls⟩

end PluginHost
