import PluginHost.Gateway.Router
import PluginHost.Host.Assembly

/-!
# Serving

A host serves by listening at its address and handing every request to its gateway.  A chat
provider that settings name but that cannot be asked, and an address that cannot be listened
at, end it before the first request.
-/

namespace PluginHost

/-- Why an address cannot be listened at. -/
inductive ListenProblem where
  /-- Something else listens there. -/
  | taken
  /-- There is no network to listen on. -/
  | unsupported
deriving DecidableEq

/-- The wording of a problem. -/
def ListenProblem.message : ListenProblem → String
  | taken => "Address already in use (os error 98)"
  | unsupported => "Operation not supported (os error 95)"

/-- What comes of listening at an address. -/
def listenAt (address : String) : Option ListenProblem → Except HostError Unit
  | none => .ok ()
  | some problem =>
    .error (.internal s!"failed to bind gateway to {address}: {problem.message}")

/-- The chat settings of a host, if it is to have a chat provider. -/
def ProviderSettings.chat? (settings : ProviderSettings) : Option ChatSettings :=
  settings.baseUrl.map fun baseUrl =>
    { baseUrl
      apiKey := settings.apiKey
      timeout := .ofSeconds settings.timeout
      maxToolRounds := settings.maxToolRounds }

/-- The chat provider that settings name, if any. -/
def ProviderSettings.provider (settings : ProviderSettings) :
    Except HostError (Option ChatProvider) :=
  match settings.chat? with
  | none => .ok none
  | some chat => (ChatProvider.ofSettings chat).map some

/-- The address that a server listens at. -/
def ServerSettings.address (settings : ServerSettings) : String :=
  s!"{settings.host}:{settings.listenPort}"

/-- A host that is ready to serve. -/
structure ServingHost where
  host : AssembledHost
  gateway : Gateway
  address : String

/-- Makes a host ready to serve. -/
def HostSettings.prepareServing (settings : HostSettings) (files : FileView) :
    Except HostError ServingHost :=
  match settings.provider.provider with
  | .error error => .error error
  | .ok provider =>
    let host := settings.assemble files
    .ok ⟨host, ⟨host.registry, settings.server.limits, provider⟩, settings.server.address⟩

end PluginHost
