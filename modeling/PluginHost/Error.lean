import PluginHost.Time.Span

/-!
# Errors of the host

Every failure that a caller sees is one of these kinds.  A kind has a wording, a short code
for machines and an HTTP status.
-/

namespace PluginHost

/-- A failure reported by the host. -/
inductive HostError where
  /-- The configuration is malformed, has bad values or cannot be read. -/
  | config (message : String)
  /-- A plugin manifest is missing, unreadable or invalid. -/
  | manifest (message : String)
  /-- No tool of that name is registered. -/
  | toolNotFound (name : String)
  /-- An argument is missing, of the wrong type or refused by the tool's schema. -/
  | invalidArgument (message : String)
  /-- A request body is larger than the limit. -/
  | payloadTooLarge (limit : Nat)
  /-- A request body was not received in time. -/
  | requestTimeout (limit : Span)
  /-- A tool did not finish in time. -/
  | toolTimeout (name : String) (limit : Span)
  /-- The plugin that owns a tool is not active. -/
  | pluginUnavailable (pluginId : String)
  /-- A plugin reported a failure. -/
  | plugin (pluginId : String) (message : String)
  /-- The chat provider failed. -/
  | provider (message : String)
  /-- Anything else. -/
  | internal (message : String)
deriving DecidableEq

namespace HostError

/-- The wording of an error. -/
def message : HostError → String
  | config message => s!"configuration error: {message}"
  | manifest message => s!"invalid plugin manifest: {message}"
  | toolNotFound name => s!"tool not found: {name}"
  | invalidArgument message => s!"invalid argument: {message}"
  | payloadTooLarge limit => s!"request body exceeds the limit of {limit} bytes"
  | requestTimeout limit => s!"request body not received within {limit.text}"
  | toolTimeout name limit => s!"tool `{name}` timed out after {limit.text}"
  | pluginUnavailable pluginId => s!"plugin `{pluginId}` is not active"
  | plugin pluginId message => s!"plugin `{pluginId}` failed: {message}"
  | provider message => s!"upstream error: {message}"
  | internal message => s!"internal error: {message}"

/-- The code of an error's kind. -/
def code : HostError → String
  | config _ => "config"
  | manifest _ => "manifest"
  | toolNotFound _ => "not_found"
  | invalidArgument _ => "invalid_argument"
  | payloadTooLarge _ => "payload_too_large"
  | requestTimeout _ => "request_timeout"
  | toolTimeout _ _ => "tool_timeout"
  | pluginUnavailable _ => "plugin_unavailable"
  | plugin _ _ => "plugin_error"
  | provider _ => "upstream_error"
  | internal _ => "internal_error"

/-- The HTTP status that answers an error. -/
def status : HostError → Nat
  | toolNotFound _ => 404
  | invalidArgument _ => 400
  | payloadTooLarge _ => 413
  | requestTimeout _ => 408
  | toolTimeout _ _ => 504
  | pluginUnavailable _ => 503
  | provider _ => 502
  | plugin _ _ => 500
  | internal _ => 500
  | config _ => 500
  | manifest _ => 500

end HostError

end PluginHost
