import PluginHost.Chat.Provider
import PluginHost.Chat.ToolMessage

/-!
# Conversations with a chat provider

A chat request is posted to the provider with the registry's tools.  While the reply asks for
tools, they are called, the reply's message and the tools' answers are put to the end of the
request's messages and the request is posted again, for at most so many rounds as the provider
is set to.  The last reply is the result.
-/

namespace PluginHost

/-- The message of a reply. -/
def replyMessage (reply : Json) : Json :=
  (((reply.field "choices").item 0).field "message")

/-- The tool calls of a reply. -/
def replyCalls (reply : Json) : List Json :=
  (((replyMessage reply).field "tool_calls").asArray?).getD []

/-- The messages of a request, none if it has none; no list if they are no array. -/
def requestMessages? (request : JsonFields) : Option (List Json) :=
  match KeyedList.get? "messages" request with
  | none => some []
  | some (.array messages) => some messages
  | some _ => none

/-- A request with other messages. -/
def withMessages (request : JsonFields) (messages : List Json) : JsonFields :=
  KeyedList.insert "messages" (.array messages) request

/-- What a conversation comes to. -/
structure Conversation where
  result : Except HostError Json
  /-- The requests that were posted, in order. -/
  posts : List JsonFields
  /-- The answers to the tool calls of each round, in order. -/
  rounds : List (List ToolAnswer)
  /-- What is noted at the end. -/
  closing : List HostWarning

namespace Conversation

/-- A conversation that ends without a post. -/
def refused (error : HostError) : Conversation :=
  ⟨.error error, [], [], []⟩

/-- A conversation that ends after a post. -/
def ended (request : JsonFields) (result : Except HostError Json) : Conversation :=
  ⟨result, [request], [], []⟩

/-- A conversation after a post and a round of tools. -/
def afterRound (request : JsonFields) (round : List ToolAnswer) (rest : Conversation) :
    Conversation :=
  ⟨rest.result, request :: rest.posts, round :: rest.rounds, rest.closing⟩

/-- Everything that is noted, in order. -/
def warnings (conversation : Conversation) : List HostWarning :=
  conversation.rounds.flatten.flatMap ToolAnswer.warnings ++ conversation.closing

/-- The tool calls that were put to their handlers, in order. -/
def started (conversation : Conversation) : List PreparedCall :=
  conversation.rounds.flatten.filterMap ToolAnswer.started

end Conversation

/-- How the calls of a conversation are answered, by the number of the round and the place in
it: a tool may remember what it was asked before, and a plugin may be shut down meanwhile. -/
abbrev CallAnswers := Nat → Nat → Json → ToolAnswer

namespace CallAnswers

/-- How calls are answered after the first rounds. -/
def after (count : Nat) (answers : CallAnswers) : CallAnswers :=
  fun round => answers (round + count)

/-- Calls are answered by the tools and instances that there are when each of them comes. -/
def along (limit : Span) (course : Nat → Nat → ToolRegistry × Handles) : CallAnswers :=
  fun round place call => (course round place).1.answerCall (course round place).2 limit call

end CallAnswers

namespace ChatProvider

/-- Goes on with a conversation that may take a number of rounds more. -/
def converse (provider : ChatProvider) (answers : CallAnswers) (left : Nat)
    (request : JsonFields) (replies : ProviderReplies) : Conversation :=
  match (replies 0).value provider.completionsUrl with
  | .error error => .ended request (.error error)
  | .ok reply =>
    match replyCalls reply with
    | [] => .ended request (.ok reply)
    | call :: calls =>
      match left with
      | 0 =>
        { Conversation.ended request (.ok reply) with
          closing := [.roundLimitReached provider.maxToolRounds] }
      | left + 1 =>
        match requestMessages? request with
        | none =>
          .ended request (.error (.invalidArgument "`messages` must be an array"))
        | some messages =>
          let round := (call :: calls).mapIdx (answers 0)
          let next := withMessages request
            (messages ++ replyMessage reply :: round.map ToolAnswer.message)
          .afterRound request round
            (converse provider (answers.after 1) left next (replies.after 1))

/-- A chat request with the tools of a registry, unless it names its own. -/
def withTools (registry : ToolRegistry) (request : JsonFields) : JsonFields :=
  if KeyedList.contains "tools" request || registry.size == 0 then request
  else KeyedList.insert "tools" (.array registry.chatEntries) request

/-- Whether a chat request asks for a stream. -/
def asksForStream (request : JsonFields) : Bool :=
  match KeyedList.get? "stream" request with
  | some (.bool true) => true
  | _ => false

/-- Completes a chat request with the tools of a registry, whose calls are answered in some
way. -/
def completeWith (provider : ChatProvider) (registry : ToolRegistry) (answers : CallAnswers)
    (request : Json) (replies : ProviderReplies) : Conversation :=
  match request with
  | .object fields =>
    if asksForStream fields then
      .refused (.invalidArgument "streaming chat completions are not supported")
    else
      provider.converse answers provider.maxToolRounds (withTools registry fields) replies
  | _ => .refused (.invalidArgument "chat request must be a JSON object")

/-- Completes a chat request while the tools and instances stay as they are. -/
def complete (provider : ChatProvider) (registry : ToolRegistry) (handles : Handles)
    (limit : Span) (request : Json) (replies : ProviderReplies) : Conversation :=
  provider.completeWith registry (.along limit fun _ _ => (registry, handles)) request replies

/-- The provider's list of models. -/
def models (provider : ChatProvider) (replies : ProviderReplies) : Except HostError Json :=
  (replies 0).value provider.modelsUrl

end ChatProvider

end PluginHost
