import Floodgate.Janitor.Schedule
import Floodgate.Limiter.Session

/-!
# The janitor

A background task that sweeps a limiter once every sweep interval. It lives on the clock of the
runtime, which is not the limiter's clock: the first sweep comes one interval after the task was
spawned. It stops when told to, and is dropped with its handle.

## Main definitions

* `Janitor` — a running task, or one that failed when its first tick did not fit the clock
* `Premises` — a session, the runtime's time and the janitor's handle
* `Act`, `Premises.step` — what can be done, and what comes of it
-/

namespace Floodgate

/-- The state of a spawned task. -/
inductive Janitor where
  | running (schedule : Schedule)
  | failed

/-- A limiter's session on a runtime, with the handle of the janitor there is, if any. -/
structure Premises where
  session : Session
  /-- The runtime's time, in nanoseconds. -/
  now : Nat
  janitor : Option Janitor

/-- What can be done on the premises. -/
inductive Act where
  | operate (op : Operation)
  /-- Let time move on from timer to timer. -/
  | sleep (millis : Nat)
  /-- Let time move at once; timers due on the way fire late. -/
  | jump (millis : Nat)
  | spawn
  | shutdown
  | drop
  deriving DecidableEq

namespace Premises

/-- Premises without janitor, at the start of the runtime's time. -/
def new (limits : Limits) : Except InvalidSetting Premises :=
  (Session.new limits).map (⟨·, 0, none⟩)

/-- Whether the janitor is at work; `none` without a handle. -/
def isRunning (p : Premises) : Option Bool :=
  p.janitor.map fun
    | .running _ => true
    | .failed => false

/-- The event of a finished sweep. -/
def sweptEvent (evicted tracked : Nat) : Event :=
  ⟨.debug, "gatekeeper::janitor", "Rate limiter sweep finished",
    [("evicted", .count evicted), ("tracked_clients", .count tracked)]⟩

/-- The event of a janitor that stopped when it was told to. -/
def stoppedEvent : Event := ⟨.info, "gatekeeper::janitor", "Rate limiter janitor stopped", []⟩

/-- The event of a janitor that was found failed when it was told to stop. Its field `error`, where
the runtime tells how the task ended, is left out. -/
def abnormalEvent : Event :=
  ⟨.warn, "gatekeeper::janitor", "Rate limiter janitor exited abnormally", []⟩

/-- Sweep a number of times, with the event of each sweep. -/
def sweepTimes (l : Limiter) (now : Instant) : Nat → Limiter × List Event
  | 0 => (l, [])
  | n + 1 =>
    let (evicted, l) := l.sweep now
    let (l', events) := sweepTimes l now n
    (l', sweptEvent evicted l.trackedClients :: events)

/-- Run the ticks that a schedule calls for and put the schedule back. -/
def runTicks (p : Premises) (ticks : List Nat × Schedule) : Premises × List Event :=
  let (limiter, events) := sweepTimes p.session.limiter p.session.now ticks.1.length
  ({ p with session := { p.session with limiter }, janitor := some (.running ticks.2) }, events)

/-- Do one thing; also the outcome of an operation and the events that came of it. -/
def step (p : Premises) : Act → Premises × Option Outcome × List Event
  | .operate op =>
    let (session, outcome) := p.session.step op
    let events := match outcome with
      | .decided client verdict => verdict.events client
      | _ => []
    ({ p with session }, some outcome, events)
  | .sleep millis =>
    let target := p.now + waited (millis * nanosPerMilli)
    match p.janitor with
    | some (.running s) =>
      let (p', events) := p.runTicks (s.ticksUntil p.now target)
      ({ p' with now := target }, none, events)
    | _ => ({ p with now := target }, none, [])
  | .jump millis =>
    let target := p.now + millis * nanosPerMilli
    match p.janitor with
    | some (.running s) =>
      -- All that is due is found due at the one instant.
      let (p', events) := p.runTicks (s.ticksAt target)
      ({ p' with now := target }, none, events)
    | _ => ({ p with now := target }, none, [])
  | .spawn =>
    let janitor := match Schedule.start? p.now p.session.limiter.limits.sweepInterval.toNanos with
      | some s => .running s
      | none => .failed
    ({ p with janitor := some janitor }, none, [])
  | .shutdown =>
    match p.janitor with
    | none => (p, none, [])
    | some (.running _) => ({ p with janitor := none }, none, [stoppedEvent])
    | some .failed => ({ p with janitor := none }, none, [abnormalEvent])
  | .drop => ({ p with janitor := none }, none, [])

end Premises

end Floodgate
