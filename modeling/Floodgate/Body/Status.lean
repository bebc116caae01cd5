import Floodgate.Json.Value
import Floodgate.Limiter.Basic

/-!
# Bodies of status answers

What the gate tells of its own state: a snapshot of the limiter, its health, its readiness.
-/

namespace Floodgate

/-- The gate's version. -/
def version : String := "0.1.0"

/-- A snapshot of a limiter as a JSON object. -/
def Stats.json (s : Stats) : Json :=
  .object [("tracked_clients", .natural s.trackedClients),
    ("global_tokens_available", .natural s.globalTokensAvailable),
    ("ip_rate", .number s.ipRate), ("ip_burst", .natural s.ipBurst),
    ("global_rate", .number s.globalRate), ("global_burst", .natural s.globalBurst),
    ("sweep_interval_secs", .natural s.sweepIntervalSecs)]

/-- The body of a health answer: the time of day and the time since the start in whole seconds,
and a snapshot of the limiter. -/
def healthJson (timestamp uptime : Nat) (s : Stats) : Json :=
  .object [("status", .text "ok"), ("timestamp", .natural timestamp), ("version", .text version),
    ("uptime_seconds", .natural uptime), ("limiter", s.json)]

/-- The body of a readiness answer. -/
def readyJson (timestamp : Nat) : Json :=
  .object [("status", .text "ready"), ("timestamp", .natural timestamp)]

end Floodgate
