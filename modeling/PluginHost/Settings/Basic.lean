import PluginHost.Capability
import PluginHost.Settings.Tree
import PluginHost.Time.Span

/-!
# The settings of the host

Four sections: the HTTP server, the plugins, the chat provider and the log.  Every
setting has a default.
-/

namespace PluginHost

/-- Settings of the HTTP server. -/
structure ServerSettings where
  host : String := "0.0.0.0"
  listenPort : Nat := 8081
  /-- The greatest size of a request body, in bytes. -/
  maxBodyBytes : Nat := 1000000
  /-- The time in which a request body must arrive, in milliseconds. -/
  bodyReadTimeout : Nat := 5000
  /-- The time that a tool may take, in milliseconds. -/
  toolTimeout : Nat := 30000

/-- Settings of the plugins. -/
structure PluginSettings where
  /-- The directory that bundles are loaded from. -/
  directory : String := "plugins"
  /-- The capabilities that plugins may ask for; none means that all are allowed. -/
  allowedCapabilities : List String := []
  /-- What each plugin is configured with, by its id. -/
  config : JsonFields := []

/-- Settings of the chat provider. -/
structure ProviderSettings where
  /-- The provider's address; none turns the chat proxy off. -/
  baseUrl : Option String := none
  apiKey : Option String := none
  /-- The time that the provider may take, in seconds. -/
  timeout : Nat := 120
  /-- How often tools may be called for one chat request. -/
  maxToolRounds : Nat := 5

/-- Settings of the log. -/
structure LoggingSettings where
  debug : Bool := false
  level : String := "info"

/-- The settings of the host. -/
structure HostSettings where
  server : ServerSettings := {}
  plugins : PluginSettings := {}
  provider : ProviderSettings := {}
  logging : LoggingSettings := {}

/-- The level of the log in effect. -/
def LoggingSettings.effectiveLevel (settings : LoggingSettings) : String :=
  if settings.debug then "debug" else settings.level

/-- The policy that the plugins' capabilities are held to. -/
def PluginSettings.policy (settings : PluginSettings) : CapabilityPolicy :=
  .ofList settings.allowedCapabilities

/-- What a server may take, in bytes and in time. -/
structure ServerLimits where
  maxBodyBytes : Nat
  bodyReadTimeout : Span
  toolTimeout : Span

/-- The limits that a server is set to. -/
def ServerSettings.limits (settings : ServerSettings) : ServerLimits :=
  ⟨settings.maxBodyBytes, .ofMilliseconds settings.bodyReadTimeout,
    .ofMilliseconds settings.toolTimeout⟩

namespace HostSettings

/-- The builtin setting of a text. -/
def builtinText (value : String) : Setting :=
  .scalar .builtin (.text value)

/-- The builtin setting of a number. -/
def builtinNumber (value : Nat) : Setting :=
  .scalar .builtin (.unsigned value)

/-- The builtin setting of a text that may be absent. -/
def builtinOptional : Option String → Setting
  | some value => builtinText value
  | none => .scalar .builtin .absent

/-- A builtin table. -/
def builtinTable (entries : List (String × Setting)) : Setting :=
  .table .builtin (KeyedList.ofList entries)

/-- The tree of the defaults, the layer below all others. -/
def defaultTree : Setting :=
  let settings : HostSettings := {}
  builtinTable
    [("server", builtinTable
      [("host", builtinText settings.server.host),
       ("port", builtinNumber settings.server.listenPort),
       ("max_body_bytes", builtinNumber settings.server.maxBodyBytes),
       ("body_read_timeout_ms", builtinNumber settings.server.bodyReadTimeout),
       ("tool_timeout_ms", builtinNumber settings.server.toolTimeout)]),
     ("plugins", builtinTable
      [("dir", builtinText settings.plugins.directory),
       ("allowed_capabilities",
        .list .builtin (settings.plugins.allowedCapabilities.map builtinText)),
       ("config", builtinTable [])]),
     ("upstream", builtinTable
      [("base_url", builtinOptional settings.provider.baseUrl),
       ("api_key", builtinOptional settings.provider.apiKey),
       ("timeout_secs", builtinNumber settings.provider.timeout),
       ("max_tool_rounds", builtinNumber settings.provider.maxToolRounds)]),
     ("logging", builtinTable
      [("debug", .scalar .builtin (.boolean settings.logging.debug)),
       ("level", builtinText settings.logging.level)])]

end HostSettings

end PluginHost
