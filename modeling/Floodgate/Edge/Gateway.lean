import Floodgate.Body.Status
import Floodgate.Edge.Basic

/-!
# The gateway

The gate's own site: its health, its readiness and a snapshot of its limiter. Other paths and
methods are answered in JSON.
-/

namespace Floodgate

open Http

/-- How long a request may take unless it is said otherwise. -/
def defaultRequestTimeout : Span := .ofSeconds 15

/-- The limiter as a resource sees it. -/
def Visit.stats (v : Visit) : Stats := v.limiter.stats v.around.answered

/-- The gate's own site. -/
def gateway : Site where
  routes := [
    .exact "/health" fun v =>
      .ok ⟨.json 200 (healthJson v.around.timestamp v.around.uptime v.stats), 0⟩,
    .exact "/ready" fun v => .ok ⟨.json 200 (readyJson v.around.timestamp), 0⟩,
    .exact "/rate-limit/stats" fun v => .ok ⟨.json 200 v.stats.json, 0⟩]
  unknownPath path := .json 404 (RouteErrorBody.notFound path).json
  wrongMethod method path := .json 405 (RouteErrorBody.methodNotAllowed method path).json

end Floodgate
