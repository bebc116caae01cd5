import Floodgate.Limiter.Clients
import Floodgate.Limits
import Floodgate.Log.Event

/-!
# The two-tier limiter

Every request is charged to the global bucket first and to its client's own bucket second. A
client's bucket is made, full, with the client's first request that passes the global tier; a
sweep drops the buckets that have been idle for longer than the sweep interval and are full
again. A request that its client's bucket refuses keeps its global charge.

## Main definitions

* `Limiter` — the limits and the buckets
* `Limiter.new` — the limiter of limits that pass validation
* `Limiter.charge` — decide one request
* `Limiter.sweep`, `Limiter.stats` — drop idle buckets, take a snapshot
-/

namespace Floodgate

/-- Which bucket refused a request. -/
inductive Tier where
  | global | client
  deriving DecidableEq, Repr

/-- What becomes of a request. -/
inductive Verdict where
  | admitted
  | refused (tier : Tier)
  deriving DecidableEq, Repr

namespace Verdict

/-- The request may go on. -/
def isAdmitted : Verdict → Bool
  | admitted => true
  | refused _ => false

/-- The request got past the global tier. -/
def passedGlobal : Verdict → Bool
  | refused .global => false
  | _ => true

theorem passedGlobal_eq_false_iff {v : Verdict} :
    v.passedGlobal = false ↔ v = .refused .global := by
  cases v with
  | admitted => simp [passedGlobal]
  | refused tier => cases tier <;> simp [passedGlobal]

/-- The events that tell of a refusal. -/
def events (client : String) : Verdict → List Event
  | admitted => []
  | refused tier =>
    let message := match tier with
      | .global => "global budget exhausted"
      | .client => "client budget exhausted"
    [⟨.trace, "gatekeeper::rate_limiter", message, [("client_id", .text client)]⟩]

end Verdict

/-- A limiter: its limits, the global bucket and the buckets of the tracked clients. -/
structure Limiter where
  limits : Limits
  global : Bucket
  clients : Clients

/-- A snapshot of a limiter. -/
structure Stats where
  trackedClients : Nat
  globalTokensAvailable : Nat
  ipRate : Binary64
  ipBurst : Nat
  globalRate : Binary64
  globalBurst : Nat
  sweepIntervalSecs : Nat
  deriving DecidableEq

namespace Limiter

/-- A limiter without clients and with a full global bucket. -/
def start (limits : Limits) (now : Instant) : Limiter :=
  ⟨limits, .full limits.globalBurst limits.globalRate now, .empty⟩

/-- The limiter of the given limits, if they pass validation. -/
def new (limits : Limits) (now : Instant) : Except InvalidSetting Limiter :=
  limits.validated.map (start · now)

/-- The bucket that a client's request is charged to: its own one, refilled, or a new one. -/
def clientBucket (l : Limiter) (now : Instant) (client : String) : Bucket :=
  match l.clients.get? client with
  | some b => b.refill now
  | none => .full l.limits.ipBurst l.limits.ipRate now

/-- Decide a client's request at `now`. -/
def charge (l : Limiter) (now : Instant) (client : String) : Verdict × Limiter :=
  let refilled := l.global.refill now
  match refilled.take? with
  | none => (.refused .global, { l with global := refilled })
  | some global =>
    let b := l.clientBucket now client
    -- The global token is spent whatever the client's bucket says.
    match b.take? with
    | none => (.refused .client, { l with global, clients := l.clients.set client b })
    | some b => (.admitted, { l with global, clients := l.clients.set client b })

/-- A bucket that a sweep at `now` drops: not refilled for longer than the interval, and full. -/
def isIdle (l : Limiter) (now : Instant) (b : Bucket) : Bool :=
  decide (l.limits.sweepInterval.toNanos < now.since b.lastRefill) && b.isFullAt now

/-- Drop the idle buckets; also their number. -/
def sweep (l : Limiter) (now : Instant) : Nat × Limiter :=
  let kept := l.clients.retain (fun b => !l.isIdle now b)
  (l.clients.size - kept.size, { l with clients := kept })

/-- A snapshot at `now`. Nothing is charged or refilled. -/
def stats (l : Limiter) (now : Instant) : Stats where
  trackedClients := l.clients.size
  globalTokensAvailable := (l.global.projected now).floorBelow (2 ^ 64 - 1)
  ipRate := l.limits.ipRate
  ipBurst := l.limits.ipBurst.toNat
  globalRate := l.limits.globalRate
  globalBurst := l.limits.globalBurst.toNat
  sweepIntervalSecs := l.limits.sweepInterval.seconds.toNat

/-- The balance of a tracked client. -/
def clientTokens (l : Limiter) (client : String) : Option Binary64 :=
  (l.clients.get? client).map Bucket.tokens

/-- The balance of the global bucket. -/
def globalTokens (l : Limiter) : Binary64 := l.global.tokens

/-- How many clients are tracked. -/
def trackedClients (l : Limiter) : Nat := l.clients.size

theorem limits_charge (l : Limiter) (now : Instant) (client : String) :
    (l.charge now client).2.limits = l.limits := by
  unfold charge
  dsimp only
  split
  · rfl
  · split <;> rfl

theorem limits_sweep (l : Limiter) (now : Instant) : (l.sweep now).2.limits = l.limits := rfl

end Limiter

end Floodgate
