import PluginHost.Proofs.Chat.Rounds

/-!
# The requests of a conversation

Every request that is posted is the original one with the registry's tools and with longer and
longer messages: after each round the message of the reply and one message for each of its calls
are put to the end.  Nothing else of the request changes and no message is lost.
-/

namespace PluginHost

namespace ChatProvider

variable (provider : ChatProvider) (limit : Span)
  (course : Nat → Nat → ToolRegistry × Handles) (replies : ProviderReplies)

/-- What a call is answered with at its place in the conversation. -/
def contentAt (number place : Nat) (call : Json) : String :=
  let (registry, handles) := course number place
  resultContent (registry.runModelCall handles limit (ModelCall.ofJson call)).result

/-- The message of the reply of a number and the answers to its calls. -/
def exchangeAt (number : Nat) : List Json :=
  replyMessage (provider.valueAt replies number) ::
    (provider.callsAt replies number).mapIdx fun place call =>
      toolMessage (textMember "id" call) (contentAt limit course number place call)

theorem messagesAt_along :
    provider.messagesAt (.along limit course) replies =
      provider.exchangeAt limit course replies := by
  funext number
  rw [messagesAt, exchangeAt, roundAt, List.mapIdx_eq_zipIdx_map, List.mapIdx_eq_zipIdx_map,
    List.map_map]
  rfl

section Requests

variable (answers : CallAnswers) (request : JsonFields) (messages : List Json)

theorem get?_requestAfter_of_ne {key : String} (other : key ≠ "messages") (rounds : Nat) :
    KeyedList.get? key (provider.requestAfter answers replies request messages rounds) =
      KeyedList.get? key request := by
  induction rounds with
  | zero => rfl
  | succ rounds ih =>
      rw [requestAfter, withMessages, KeyedList.get?_insert, if_neg (Ne.symm other), ih]

theorem get?_messages_requestAfter (rounds : Nat) :
    KeyedList.get? "messages"
        (provider.requestAfter answers replies request messages (rounds + 1)) =
      some (.array (messages ++
        (List.range (rounds + 1)).flatMap (provider.messagesAt answers replies))) := by
  rw [requestAfter, withMessages, KeyedList.get?_insert, if_pos rfl]

end Requests

theorem get?_tools_withTools (registry : ToolRegistry) (fields : JsonFields) :
    KeyedList.get? "tools" (withTools registry fields) =
      if KeyedList.contains "tools" fields = true ∨ registry.size = 0 then
        KeyedList.get? "tools" fields
      else some (.array registry.chatEntries) := by
  rw [withTools]
  by_cases kept : KeyedList.contains "tools" fields = true ∨ registry.size = 0
  · rw [if_pos kept, if_pos (by simpa using kept)]
  · rw [if_neg kept, if_neg (by simpa using kept), KeyedList.get?_insert, if_pos rfl]

end ChatProvider

open ChatProvider

/-- What the posts of a conversation are, from the original request on. -/
structure ExtendedPosts (provider : ChatProvider) (registry : ToolRegistry) (limit : Span)
    (course : Nat → Nat → ToolRegistry × Handles) (replies : ProviderReplies)
    (fields : JsonFields) (posts : List JsonFields) : Prop where
  posted : asksForStream fields = false → posts ≠ []
  tools : ∀ (number : Nat) post, posts[number]? = some post →
    KeyedList.get? "tools" post =
      if KeyedList.contains "tools" fields = true ∨ registry.size = 0 then
        KeyedList.get? "tools" fields
      else some (.array registry.chatEntries)
  firstMessages : ∀ post, posts[0]? = some post →
    KeyedList.get? "messages" post = KeyedList.get? "messages" fields
  /-- Every later post goes on where the original messages end. -/
  messages : ∀ (number : Nat) post, posts[number + 1]? = some post →
    ∃ original, requestMessages? fields = some original ∧
      KeyedList.get? "messages" post = some (.array (original ++
        (List.range (number + 1)).flatMap (provider.exchangeAt limit course replies)))
  /-- The replies that were gone on from hold values that ask for tools. -/
  replied : ∀ (number : Nat) post, posts[number + 1]? = some post →
    (replies number).Holds (provider.valueAt replies number) ∧
      provider.callsAt replies number ≠ []
  others : ∀ (number : Nat) post, posts[number]? = some post →
    ∀ key, key ≠ "tools" → key ≠ "messages" →
      KeyedList.get? key post = KeyedList.get? key fields
  grows : ∀ (number : Nat) post next, posts[number]? = some post → posts[number + 1]? = some next →
    ∃ before after, requestMessages? post = some before ∧
      requestMessages? next = some after ∧ before <+: after

/-- Whatever the provider replies and whatever becomes of the tools meanwhile, every post is the
original request with the registry's tools and with the messages of all rounds before it. -/
theorem completeWith_extendedPosts (provider : ChatProvider) (registry : ToolRegistry)
    (limit : Span) (course : Nat → Nat → ToolRegistry × Handles) (replies : ProviderReplies)
    (fields : JsonFields) :
    ExtendedPosts provider registry limit course replies fields
      (provider.completeWith registry (.along limit course) (.object fields) replies).posts := by
  cases stream : asksForStream fields with
  | true =>
      rw [completeWith_of_stream _ _ _ _ stream]
      constructor <;> simp [Conversation.refused, stream]
  | false =>
      rw [provider.completeWith_of_accepted _ _ _ stream]
      -- Every post is the request after some number of rounds, and any clause is about one of them.
      obtain ⟨rounds, -, list, asks, posts, -⟩ :=
        provider.converse_posts_rounds (.along limit course) replies provider.maxToolRounds
          (withTools registry fields)
      rw [posts, requestMessages?_withTools]
      rw [requestMessages?_withTools] at list
      constructor
      case posted => simp
      case tools =>
        intro number post found
        obtain ⟨-, rfl⟩ := (getElem?_map_range_eq_some_iff _ _ _ _).mp found
        rw [get?_requestAfter_of_ne _ _ _ _ _ (by decide), get?_tools_withTools]
      case firstMessages =>
        intro post found
        obtain ⟨-, rfl⟩ := (getElem?_map_range_eq_some_iff _ _ _ _).mp found
        exact get?_withTools_of_ne registry fields (by decide)
      case messages =>
        intro number post found
        obtain ⟨less, rfl⟩ := (getElem?_map_range_eq_some_iff _ _ _ _).mp found
        obtain ⟨original, list⟩ := Option.ne_none_iff_exists'.mp (list (by omega))
        refine ⟨original, list, ?_⟩
        rw [get?_messages_requestAfter, list, Option.getD_some, messagesAt_along]
      case replied =>
        intro number post found
        obtain ⟨less, -⟩ := (getElem?_map_range_eq_some_iff _ _ _ _).mp found
        have calls := asks number (by omega)
        have good := provider.value_of_callsAt replies calls
        exact ⟨(ProviderReply.value_eq_ok_iff _ _ _).mp good, calls⟩
      case others =>
        intro number post found key noTools noMessages
        obtain ⟨-, rfl⟩ := (getElem?_map_range_eq_some_iff _ _ _ _).mp found
        rw [get?_requestAfter_of_ne _ _ _ _ _ noMessages, get?_withTools_of_ne _ _ noTools]
      case grows =>
        intro number post next found foundNext
        obtain ⟨-, rfl⟩ := (getElem?_map_range_eq_some_iff _ _ _ _).mp found
        obtain ⟨less, rfl⟩ := (getElem?_map_range_eq_some_iff _ _ _ _).mp foundNext
        obtain ⟨original, list⟩ := Option.ne_none_iff_exists'.mp (list (by omega))
        rw [list, Option.getD_some]
        rw [← requestMessages?_withTools registry] at list
        refine ⟨_, _, provider.requestMessages?_requestAfter _ _ list _,
          provider.requestMessages?_requestAfter _ _ list _, ?_⟩
        rw [List.range_succ, List.flatMap_append, ← List.append_assoc]
        exact List.prefix_append _ _

end PluginHost
