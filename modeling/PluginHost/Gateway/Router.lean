import PluginHost.Chat.Conversation
import PluginHost.Gateway.CallRequest

/-!
# The gateway

Five paths answer requests.  Every response may be read by pages of every origin, and every
question about what is allowed is answered without anything being run: layers around the services
of the endpoints see to it, around those for unknown paths and methods too.  An exchange tells the
response together with what was done for it: the tool calls that were put to handlers, the
requests to the chat provider and the warnings.
-/

namespace PluginHost

/-- A gateway to a registry of tools and, if there is one, to a chat provider. -/
structure Gateway where
  registry : ToolRegistry
  limits : ServerLimits
  provider : Option ChatProvider

/-- What the gateway has an answer for. -/
inductive Endpoint where
  | health
  | tools
  | callTool
  | chatCompletions
  | models
deriving DecidableEq

namespace Endpoint

/-- The endpoint of a path. -/
def ofPath? : String → Option Endpoint
  | "/healthz" => some health
  | "/tools" => some tools
  | "/call-tool" => some callTool
  | "/v1/chat/completions" => some chatCompletions
  | "/v1/models" => some models
  | _ => none

/-- The methods that an endpoint takes, as they are told. -/
def allowed : Endpoint → String
  | health => "GET,HEAD"
  | tools => "GET,HEAD"
  | callTool => "POST,OPTIONS"
  | chatCompletions => "POST"
  | models => "GET,HEAD"

/-- Whether an endpoint is read rather than posted to. -/
def isRead : Endpoint → Bool
  | health => true
  | tools => true
  | models => true
  | callTool => false
  | chatCompletions => false

/-- Whether an endpoint answers questions about what is allowed by itself. -/
def answersOptions : Endpoint → Bool
  | callTool => true
  | _ => false

/-- Whether an endpoint takes a method. -/
def takes (endpoint : Endpoint) (method : String) : Bool :=
  if endpoint.isRead then method == "GET" || method == "HEAD" else method == "POST"

end Endpoint

/-- A request to the chat provider. -/
inductive ProviderRequest where
  | completion (request : JsonFields)
  | models

/-- What was done for a request. -/
structure Exchange where
  response : GatewayResponse
  /-- The tool calls that were put to their handlers, in order. -/
  started : List PreparedCall
  /-- The requests to the chat provider, in order. -/
  asked : List ProviderRequest
  warnings : List HostWarning

namespace Exchange

/-- An exchange in which nothing is done but to answer. -/
def answered (response : GatewayResponse) : Exchange :=
  ⟨response, [], [], []⟩

/-- The exchange with another response. -/
def mapResponse (change : GatewayResponse → GatewayResponse) (exchange : Exchange) : Exchange :=
  { exchange with response := change exchange.response }

/-- The exchange of a tool call. -/
def ofCall (call : LimitedCall) : Exchange :=
  ⟨.ofResult call.result, call.started.toList, [], call.warnings⟩

/-- The exchange of a conversation. -/
def ofConversation (conversation : Conversation) : Exchange :=
  ⟨.ofResult conversation.result, conversation.started,
    conversation.posts.map .completion, conversation.warnings⟩

end Exchange

/-- What answers requests. -/
abbrev Service := GatewayRequest → Exchange

/-- What stands between requests and a service. -/
abbrev Layer := Service → Service

namespace Layer

/-- Answers questions about what is allowed, allowing everything, and lets pages of every origin read
all other responses. -/
def permissive : Layer := fun service request =>
  if request.isQuestion then .answered .permission
  else (service request).mapResponse .shared

/-- Makes an answer without content of a good answer to a question. -/
def withoutContent : Layer := fun service request =>
  let exchange := service request
  if request.isQuestion && exchange.response.status == 200 then
    exchange.mapResponse (.withStatus 204)
  else exchange

/-- Lets every response name an origin. -/
def namingOrigin : Layer := fun service request =>
  (service request).mapResponse .namingOrigin

/-- The layers of the gateway, of which a given one that deals with other origins is the
innermost. -/
def around (origins : Layer) : Layer := fun service =>
  namingOrigin (withoutContent (origins service))

end Layer

namespace Gateway

/-- The answer of a health check. -/
def health : Json :=
  .object [("status", .string "ok")]

/-- The list of tools. -/
def toolList (gateway : Gateway) : Json :=
  .array (gateway.registry.definitions.map ToolDefinition.toJson)

/-- Completes a chat request with the gateway's provider. -/
def serveChat (gateway : Gateway) (handles : Handles) (replies : ProviderReplies)
    (request : GatewayRequest) : Exchange :=
  match gateway.provider with
  | none => .answered (.ofFailure .noChatProvider)
  | some provider =>
    match request.body.readJson Json.read gateway.limits request.headers with
    | .error error => .answered (.ofError error)
    | .ok value =>
      .ofConversation (provider.complete gateway.registry handles gateway.limits.toolTimeout
        value replies)

/-- Lists the models of the gateway's provider. -/
def serveModels (gateway : Gateway) (replies : ProviderReplies) : Exchange :=
  match gateway.provider with
  | none => .answered (.ofFailure .noChatProvider)
  | some provider => ⟨.ofResult (provider.models replies), [], [.models], []⟩

/-- Serves a request that an endpoint takes. -/
def serve (gateway : Gateway) (handles : Handles) (replies : ProviderReplies)
    (request : GatewayRequest) : Endpoint → Exchange
  | .health => .answered (.ofValue health)
  | .tools => .answered (.ofValue gateway.toolList)
  | .callTool =>
    .ofCall (gateway.registry.serveCall handles gateway.limits request.headers request.body)
  | .chatCompletions => gateway.serveChat handles replies request
  | .models => gateway.serveModels replies

/-- The service of an endpoint for a method, if it has one.  What answers `GET` answers `HEAD` too,
without a body. -/
def endpointService? (gateway : Gateway) (handles : Handles) (replies : ProviderReplies)
    (endpoint : Endpoint) (method : String) : Option Service :=
  if endpoint.takes method then
    some fun request =>
      let exchange := gateway.serve handles replies request endpoint
      if method == "HEAD" then exchange.mapResponse .withoutBody else exchange
  else if endpoint.answersOptions && method == "OPTIONS" then
    some fun _ => .answered (.ofStatus 204)
  else none

/-- Routes a request.  Every service of an endpoint is reached through the layers, and so are the
answers for unknown paths and for methods that an endpoint does not take; which methods it takes is
told outside of the layers. -/
def route (layers : Layer) (gateway : Gateway) (handles : Handles) (replies : ProviderReplies)
    (request : GatewayRequest) : Exchange :=
  match Endpoint.ofPath? request.path with
  | none => layers (fun _ => .answered (.ofStatus 404)) request
  | some endpoint =>
    match gateway.endpointService? handles replies endpoint request.method with
    | some service => layers service request
    | none =>
      (layers (fun _ => .answered (.ofStatus 405)) request).mapResponse
        (.withHeaders [("allow", endpoint.allowed)])

/-- Handles a request. -/
def handle (gateway : Gateway) (handles : Handles) (replies : ProviderReplies)
    (request : GatewayRequest) : Exchange :=
  gateway.route (.around .permissive) handles replies request

end Gateway

end PluginHost
