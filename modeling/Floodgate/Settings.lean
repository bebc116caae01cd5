import Floodgate.Limits
import Floodgate.Net.Socket

/-!
# Settings

Everything that can be set about a running gate.

## Main definitions

* `Settings` — the settings of a process
* `Settings.standard` — the settings unless others are given
* `Settings.limits` — the settings of its limiter
* `Settings.isProduction`, `Settings.jsonLogs` — what follows from the environment's name
-/

namespace Floodgate

/-- The settings of a process. -/
structure Settings where
  bindAddress : Socket
  ipRate : Binary64
  ipBurst : UInt32
  globalRate : Binary64
  globalBurst : UInt32
  sweepInterval : Span
  logLevel : String
  logJson : Bool
  /-- The name of the environment that the process runs in. -/
  deployment : String
  requestTimeout : Span
  shutdownGrace : Span
  deriving DecidableEq

namespace Settings

/-- The settings that are in force unless others are given. -/
def standard : Settings where
  bindAddress := .v4 ⟨0, 0, 0, 0⟩ 8000
  ipRate := Limits.standard.ipRate
  ipBurst := Limits.standard.ipBurst
  globalRate := Limits.standard.globalRate
  globalBurst := Limits.standard.globalBurst
  sweepInterval := Limits.standard.sweepInterval
  logLevel := "info"
  logJson := false
  deployment := "development"
  requestTimeout := .ofSeconds 15
  shutdownGrace := .ofSeconds 10

/-- The settings of the limiter. -/
def limits (s : Settings) : Limits :=
  ⟨s.ipRate, s.ipBurst, s.globalRate, s.globalBurst, s.sweepInterval⟩

/-- The process runs in production, whatever the case of the name. -/
def isProduction (s : Settings) : Bool :=
  s.deployment.toList.map Char.toLower == "production".toList

/-- Logs are JSON when that is wanted, and always in production. -/
def jsonLogs (s : Settings) : Bool := s.logJson || s.isProduction

end Settings

end Floodgate
