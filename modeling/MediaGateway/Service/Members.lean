import MediaGateway.Api.Rpc
import MediaGateway.Chain
import MediaGateway.Settings

/-!
# The chain of the service

The log of calls is outermost, then the guard against panics, then the count of
calls when the settings ask for it.
-/

namespace MediaGateway.Service

/-- The members of the chain, outermost first. -/
def members {ρ : Type} (settings : Settings) : List (Chain.Interceptor ρ) :=
  [.logging, .errorHandling] ++ (if settings.metricsEnabled then [.metrics] else [])

/-- The names of the members. -/
def memberNames (settings : Settings) : List String :=
  (@members Unit settings).map Chain.Interceptor.name

/-- The counts before the first call: every method is known. -/
def initialMetrics : Metrics := Metrics.ofMethods (Api.Rpc.all.map Api.Rpc.name)

end MediaGateway.Service
