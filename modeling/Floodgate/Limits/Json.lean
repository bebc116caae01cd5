import Floodgate.Json.Record
import Floodgate.Json.Value
import Floodgate.Limits
import Floodgate.Time.SpanText

/-!
# Limits as JSON

The record of limits has five members, in the order of the fields; the sweep interval is a text.

## Main definitions

* `Limits.json` — the limits as a JSON value
* `Limits.readJson` — the limits that a JSON text stands for
-/

namespace Floodgate

/-- A span of time, given as a text. -/
def Json.readSpan : Json.Reader Span := fun cs => do
  let (s, cs) ← Json.readStringAs "a duration" cs
  match Span.read s.toList with
  | .ok d => .ok (d, cs)
  | .error e =>
    if e.isCrash then .error (.crashed e.message)
    else .error (Json.Found.wrongValue (.text s) "a duration")

namespace Limits

/-- The limits as a JSON object. -/
def json (l : Limits) : Json :=
  .object [("ip_rate", .number l.ipRate), ("ip_burst", .natural l.ipBurst.toNat),
    ("global_rate", .number l.globalRate), ("global_burst", .natural l.globalBurst.toNat),
    ("sweep_interval", .text (String.ofList l.sweepInterval.write))]

/-- Limits of which some are known. -/
structure Draft where
  ipRate : Option Binary64 := none
  ipBurst : Option UInt32 := none
  globalRate : Option Binary64 := none
  globalBurst : Option UInt32 := none
  sweepInterval : Option Span := none

/-- The members of a record of limits. -/
def record : Json.Record Draft Limits where
  name := "LimiterConfig"
  blank := {}
  slots := [
    .ofReader "ip_rate" Json.readBinary64 Draft.ipRate fun v d => { d with ipRate := some v },
    .ofReader "ip_burst" Json.readUInt32 Draft.ipBurst fun v d => { d with ipBurst := some v },
    .ofReader "global_rate" Json.readBinary64 Draft.globalRate
      fun v d => { d with globalRate := some v },
    .ofReader "global_burst" Json.readUInt32 Draft.globalBurst
      fun v d => { d with globalBurst := some v },
    .ofReader "sweep_interval" Json.readSpan Draft.sweepInterval
      fun v d => { d with sweepInterval := some v }]
  finish d := do
    .ok ⟨← Json.required "ip_rate" d.ipRate, ← Json.required "ip_burst" d.ipBurst,
      ← Json.required "global_rate" d.globalRate, ← Json.required "global_burst" d.globalBurst,
      ← Json.required "sweep_interval" d.sweepInterval⟩

/-- The limits that a JSON text stands for. -/
def readJson (text : String) : Except Json.Fault Limits := record.read text

end Limits

end Floodgate
