import PluginHost.Gateway.Body
import PluginHost.Gateway.Failure

/-!
# Requests and responses

A request names a method and a target and may carry a body; a response has a status, header
fields and a body.  The gateway lets pages of every origin read its responses and tells what
it would allow them when they ask.
-/

namespace PluginHost

/-- A request to the gateway. -/
structure GatewayRequest where
  method : String
  target : String
  headers : HeaderFields
  body : RequestBody
deriving DecidableEq

/-- The path of a target without a query, as it is written; of a whole address, what follows
its authority. -/
def pathOf (target : List Char) : List Char :=
  match target, target.dropWhile fun c => c != ':' with
  | '/' :: _, _ => target
  | _, ':' :: '/' :: '/' :: rest =>
    match rest.dropWhile fun c => c != '/' with
    | [] => ['/']
    | path => path
  | _, _ => target

/-- Whether a request asks what is allowed. -/
def GatewayRequest.isQuestion (request : GatewayRequest) : Bool :=
  request.method == "OPTIONS"

/-- The path of a request. -/
def GatewayRequest.path (request : GatewayRequest) : String :=
  String.ofList (pathOf (request.target.toList.takeWhile fun c => c != '?' && c != '#'))

/-- A response of the gateway. -/
structure GatewayResponse where
  status : Nat
  headers : HeaderFields
  body : String
deriving DecidableEq

namespace GatewayResponse

/-- A response without a body. -/
def ofStatus (status : Nat) : GatewayResponse :=
  ⟨status, [], ""⟩

/-- A response with a body of JSON text. -/
def ofJsonText (status : Nat) (body : String) : GatewayResponse :=
  ⟨status, [("content-type", "application/json")], body⟩

/-- The response with a value. -/
def ofValue (value : Json) : GatewayResponse :=
  ofJsonText 200 value.compact

/-- The response to a request that fails. -/
def ofFailure (failure : RequestFailure) : GatewayResponse :=
  ofJsonText failure.status failure.body

/-- The response to a request that meets an error. -/
def ofError (error : HostError) : GatewayResponse :=
  ofFailure (.ofError error)

/-- The response with a value, or to an error. -/
def ofResult : Except HostError Json → GatewayResponse
  | .ok value => ofValue value
  | .error error => ofError error

/-- The response without its body. -/
def withoutBody (response : GatewayResponse) : GatewayResponse :=
  { response with body := "" }

/-- The response with another status. -/
def withStatus (status : Nat) (response : GatewayResponse) : GatewayResponse :=
  { response with status := status }

/-- The response with more header fields. -/
def withHeaders (fields : HeaderFields) (response : GatewayResponse) : GatewayResponse :=
  { response with headers := response.headers ++ fields }

/-- The header field that lets pages of every origin read a response. -/
def everyOrigin : String × String :=
  ("access-control-allow-origin", "*")

/-- What a response depends on when pages of other origins ask. -/
def originVariance : String × String :=
  ("vary", "origin, access-control-request-method, access-control-request-headers")

/-- The response for pages of every origin. -/
def shared (response : GatewayResponse) : GatewayResponse :=
  response.withHeaders [everyOrigin, originVariance, ("access-control-expose-headers", "*")]

/-- The response that names every origin, if it names none yet. -/
def namingOrigin (response : GatewayResponse) : GatewayResponse :=
  if (response.headers.first? everyOrigin.1).isSome then response
  else response.withHeaders [everyOrigin]

/-- The response to a question about what pages of other origins may ask: everything. -/
def permission : GatewayResponse :=
  (ofStatus 200).withHeaders [everyOrigin, originVariance,
    ("access-control-allow-methods", "*"), ("access-control-allow-headers", "*")]

end GatewayResponse

end PluginHost
