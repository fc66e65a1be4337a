import PluginHost.Error
import PluginHost.Json.Printer

/-!
# Failures of requests

A request that fails is answered by a status and a body with the failure's message and the
code of its kind, in this order.
-/

namespace PluginHost

/-- Why a request is refused. -/
structure RequestFailure where
  status : Nat
  code : String
  message : String
deriving DecidableEq

namespace RequestFailure

/-- An error of the host as a failure of the request that met it. -/
def ofError (error : HostError) : RequestFailure :=
  ⟨error.status, error.code, error.message⟩

/-- The refusal of a chat request by a gateway that has no chat provider. -/
def noChatProvider : RequestFailure :=
  ⟨503, "upstream_unavailable", "no upstream chat provider is configured"⟩

/-- The body that answers a failed request. -/
def body (failure : RequestFailure) : String :=
  (Json.object [("error", .string failure.message), ("code", .string failure.code)]).compact

end RequestFailure

end PluginHost
