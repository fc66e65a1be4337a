import PluginHost.Chat.Address
import PluginHost.Error
import PluginHost.Gateway.Headers
import PluginHost.Json.Reader
import PluginHost.Text.Quoted

/-!
# The chat provider

A chat provider is asked over the web and answers with JSON, or fails: it cannot be reached, it
answers with a status other than success, or its answer is no JSON.  What it answers is not
known beforehand, so its behaviour is a sequence of replies, one for each time it is asked.
-/

namespace PluginHost

open Text

/-- How a chat provider is asked. -/
structure ChatSettings where
  /-- The address that the endpoints are below. -/
  baseUrl : String
  apiKey : Option String
  timeout : Span
  /-- How often tools may be called for one chat request. -/
  maxToolRounds : Nat

/-- The settings as a text for developers; the key is not shown. -/
def ChatSettings.text (settings : ChatSettings) : String :=
  let key :=
    match settings.apiKey with
    | none => "None"
    | some _ => "Some(" ++ quoted "[redacted]" ++ ")"
  "ChatConfig \x7b base_url: " ++ quoted settings.baseUrl ++ ", api_key: " ++ key ++
    ", timeout: " ++ settings.timeout.text ++
    s!", max_tool_rounds: {settings.maxToolRounds}" ++ " \x7d"

/-- A chat provider that can be asked. -/
structure ChatProvider where
  /-- The address that the endpoints are below, without slashes at its end. -/
  baseUrl : String
  /-- What the provider is shown as authorization. -/
  authorization : Option String
  maxToolRounds : Nat
deriving DecidableEq

/-- What the provider is shown as authorization for a key. -/
def bearerOf (key : String) : Except HostError String :=
  let value := s!"Bearer {key}"
  if isSendableHeaderValue value then .ok value
  else
    .error (.config
      "invalid upstream API key header value: failed to parse header value")

namespace ChatProvider

/-- A base address without slashes at its end. -/
def trimmedBase (baseUrl : String) : String :=
  String.ofList (dropTrailing (· == '/') baseUrl.toList)

/-- The provider of settings; a key that cannot be sent is refused. -/
def ofSettings (settings : ChatSettings) : Except HostError ChatProvider :=
  match settings.apiKey with
  | none => .ok ⟨trimmedBase settings.baseUrl, none, settings.maxToolRounds⟩
  | some key =>
    (bearerOf key).map fun bearer =>
      ⟨trimmedBase settings.baseUrl, some bearer, settings.maxToolRounds⟩

/-- The address of chat completions. -/
def completionsUrl (provider : ChatProvider) : String :=
  provider.baseUrl ++ "/chat/completions"

/-- The address of the list of models. -/
def modelsUrl (provider : ChatProvider) : String :=
  provider.baseUrl ++ "/models"

end ChatProvider

/-- What comes of asking a provider once. -/
inductive ProviderReply where
  /-- There is no connection, or it closes without an answer, or none comes in time. -/
  | unreachable
  /-- An answer whose body breaks off or does not come in time. -/
  | brokenOff
  /-- An answer with a status and a body. -/
  | answered (status : Nat) (body : List UInt8)
deriving DecidableEq

/-- The replies of a provider, one for each time it is asked. -/
abbrev ProviderReplies := Nat → ProviderReply

/-- The replies after the first ones. -/
def ProviderReplies.after (count : Nat) (replies : ProviderReplies) : ProviderReplies :=
  fun number => replies (number + count)

/-- The registered wording of a status. -/
def statusReason? : Nat → Option String
  | 100 => some "Continue"
  | 101 => some "Switching Protocols"
  | 102 => some "Processing"
  | 103 => some "Early Hints"
  | 200 => some "OK"
  | 201 => some "Created"
  | 202 => some "Accepted"
  | 203 => some "Non Authoritative Information"
  | 204 => some "No Content"
  | 205 => some "Reset Content"
  | 206 => some "Partial Content"
  | 207 => some "Multi-Status"
  | 208 => some "Already Reported"
  | 226 => some "IM Used"
  | 300 => some "Multiple Choices"
  | 301 => some "Moved Permanently"
  | 302 => some "Found"
  | 303 => some "See Other"
  | 304 => some "Not Modified"
  | 305 => some "Use Proxy"
  | 307 => some "Temporary Redirect"
  | 308 => some "Permanent Redirect"
  | 400 => some "Bad Request"
  | 401 => some "Unauthorized"
  | 402 => some "Payment Required"
  | 403 => some "Forbidden"
  | 404 => some "Not Found"
  | 405 => some "Method Not Allowed"
  | 406 => some "Not Acceptable"
  | 407 => some "Proxy Authentication Required"
  | 408 => some "Request Timeout"
  | 409 => some "Conflict"
  | 410 => some "Gone"
  | 411 => some "Length Required"
  | 412 => some "Precondition Failed"
  | 413 => some "Payload Too Large"
  | 414 => some "URI Too Long"
  | 415 => some "Unsupported Media Type"
  | 416 => some "Range Not Satisfiable"
  | 417 => some "Expectation Failed"
  | 418 => some "I'm a teapot"
  | 421 => some "Misdirected Request"
  | 422 => some "Unprocessable Entity"
  | 423 => some "Locked"
  | 424 => some "Failed Dependency"
  | 425 => some "Too Early"
  | 426 => some "Upgrade Required"
  | 428 => some "Precondition Required"
  | 429 => some "Too Many Requests"
  | 431 => some "Request Header Fields Too Large"
  | 451 => some "Unavailable For Legal Reasons"
  | 500 => some "Internal Server Error"
  | 501 => some "Not Implemented"
  | 502 => some "Bad Gateway"
  | 503 => some "Service Unavailable"
  | 504 => some "Gateway Timeout"
  | 505 => some "HTTP Version Not Supported"
  | 506 => some "Variant Also Negotiates"
  | 507 => some "Insufficient Storage"
  | 508 => some "Loop Detected"
  | 510 => some "Not Extended"
  | 511 => some "Network Authentication Required"
  | _ => none

namespace ProviderReply

/-- The error of a request that gets no answer. -/
def unansweredError (url : String) : HostError :=
  match WebAddress.ofText? url with
  | some address =>
    .provider s!"request to upstream failed: error sending request for url ({address.text})"
  | none => .provider "request to upstream failed: builder error"

/-- The error of an answer whose body breaks off. -/
def brokenOffError : HostError :=
  .provider "failed to read upstream response: error decoding response body"

/-- The error of an answer with a status other than success. -/
def statusError (status : Nat) (body : String) : HostError :=
  let reason := (statusReason? status).getD "<unknown status code>"
  .provider s!"upstream returned {status} {reason}: {body}"

/-- The error of an answer that is no JSON. -/
def unreadableError (body : List Symbol) (fault : JsonFault) : HostError :=
  .provider ("failed to parse upstream response: " ++ fault.message body)

/-- The value that a reply holds. -/
def value (url : String) : ProviderReply → Except HostError Json
  | unreachable => .error (unansweredError url)
  | brokenOff => .error brokenOffError
  | answered status bytes =>
    let body := readableText bytes
    if 200 ≤ status && status < 300 then
      (Json.read (symbolsOf body)).mapError (unreadableError (symbolsOf body))
    else
      .error (statusError status body)

end ProviderReply

end PluginHost
