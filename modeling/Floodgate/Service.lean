import Floodgate.CommandLine.Settle
import Floodgate.Edge.Gateway
import Floodgate.Environment.File
import Floodgate.Failure
import Floodgate.Janitor.Basic
import Floodgate.Log.Filter
import Floodgate.Log.Line

/-!
# The service

One run of the program: it reads its settings, binds its socket, answers requests until a signal
comes, lets open connections drain for a while, and stops. What the system has to do with it is
left to a host, so that a run can be watched on a host that is no system at all.

## Main definitions

* `Host` — what a run asks of the system
* `Service.run` — the run of arguments, environment and environment file
-/

namespace Floodgate

/-- A signal that ends a run. -/
inductive Signal where
  | interrupt | terminate
  deriving DecidableEq, Repr

/-- How a service came to its end: the signal that was sent, and whether all connections ended
within the time that they are given after it. -/
structure Departure where
  signal : Signal
  drained : Bool
  deriving DecidableEq, Repr

/-- How requests are answered. -/
abbrev Handler := Limiter → Circumstances → Http.Request → Reply

/-- What a run asks of the system. -/
structure Host (m : Type → Type) where
  /-- Bind a socket and listen: the address that it got, or what is said against it. -/
  listen : Socket → m (Except String Socket)
  /-- The limiter's clock. -/
  now : m Instant
  /-- Answer requests until a signal comes, and tell their events. -/
  attend : Settings → Handler → Limiter → (Event → m Unit) → m Departure
  /-- Write an event to the log, as JSON or as text. -/
  tell : (asJson : Bool) → Event → m Unit
  /-- Say something to the operator. -/
  complain : String → m Unit
  /-- Show a page that was asked for. -/
  present : String → m Unit

namespace Service

/-! ### Events -/

/-- The event of a start. -/
def startingEvent (s : Settings) : Event :=
  ⟨.info, "gatekeeper", "Starting gatekeeper",
    [("bind_addr", .shown s.bindAddress.text), ("app_env", .shown s.deployment),
      ("version", .text version)]⟩

/-- The events of a service that listens. -/
def listeningEvents (address : Socket) (s : Settings) : List Event :=
  [⟨.info, "gatekeeper::server", "Gatekeeper listening",
    [("address", .shown address.text), ("ip_rate", .real s.ipRate),
      ("ip_burst", .count s.ipBurst.toNat), ("global_rate", .real s.globalRate),
      ("global_burst", .count s.globalBurst.toNat),
      ("sweep_interval_secs", .count s.sweepInterval.seconds.toNat),
      ("request_timeout_secs", .count s.requestTimeout.seconds.toNat)]⟩,
    ⟨.info, "gatekeeper::server", "Health check available at /health", []⟩,
    ⟨.info, "gatekeeper::server", "Readiness check available at /ready", []⟩]

/-- The event of a signal. -/
def signalEvent (signal : Signal) : Event :=
  let message := match signal with
    | .interrupt => "Received Ctrl+C, initiating graceful shutdown"
    | .terminate => "Received terminate signal, initiating graceful shutdown"
  ⟨.info, "gatekeeper::server", message, []⟩

/-- The event of connections that did not end in time. -/
def forcedEvent (s : Settings) : Event :=
  ⟨.warn, "gatekeeper::server",
    "Connections still open after shutdown grace period, forcing exit",
    [("grace_secs", .count s.shutdownGrace.seconds.toNat)]⟩

/-- The event of a service that has stopped. -/
def exitedEvent : Event := ⟨.info, "gatekeeper::server", "Server exited properly", []⟩

/-- The event of the janitor's end. It failed at its start when no clock can hold its first tick. -/
def sweptUpEvent (s : Settings) : Event :=
  match Schedule.start? 0 s.sweepInterval.toNanos with
  | some _ => Premises.stoppedEvent
  | none => Premises.abnormalEvent

/-- The events of a service that comes to its end. -/
def departingEvents (d : Departure) (s : Settings) : List Event :=
  signalEvent d.signal :: (if d.drained then [] else [forcedEvent s]) ++
    [sweptUpEvent s, exitedEvent]

/-! ### Runs -/

/-- The filter of the log, if reading it does not stop the program, and what is said of it. A
variable comes before the settings. -/
def logFilter (env : Environment) (s : Settings) : Option LogFilter × List String :=
  let ofSettings :=
    LogFilter.readLossy ("gatekeeper=" ++ s.logLevel ++ ",tower_http=debug")
  match (env.lookup "RUST_LOG").map LogFilter.read with
  | some (.ok f) => (some f, [])
  | some (.error .torn) => (none, [])
  | _ => ofSettings

/-- The limits that a service is made with. -/
def limits (s : Settings) : Except Failure Limits :=
  match s.limits.validated with
  | .ok l => .ok l
  | .error e => .error (.setting e)

/-- The exit code of a program that crashes. -/
def crashCode : UInt32 := 101

/-- What is said of a crash, behind an empty line. -/
def crashReport (message : String) : String := "\nthread 'main' panicked:\n" ++ message

/-- The exit code of a program that does not start. -/
def exitCode : CommandLine.Stop → UInt32
  | .help | .version => 0
  | .badValue _ _ (.crashed _) => crashCode
  | _ => 2

variable {m : Type → Type} [Monad m]

/-- The run of settings, given how events are told; its exit code. -/
def serve (host : Host m) (s : Settings) (tell : Event → m Unit) : m UInt32 := do
  tell (startingEvent s)
  match limits s with
  | .error f =>
    host.complain ("Error: Failed to create server: " ++ f.message)
    return 1
  | .ok limits =>
    match ← host.listen s.bindAddress with
    | .error message =>
      host.complain ("Error: Server error: " ++ (Failure.system message).message)
      return 1
    | .ok address =>
      let limiter := Limiter.start limits (← host.now)
      (listeningEvents address s).forM tell
      let departure ← host.attend s (Edge.handle gateway s.requestTimeout) limiter tell
      (departingEvents departure s).forM tell
      return 0

/-- The run of arguments, environment and environment file; its exit code. -/
def run (host : Host m) (program : Option String) (arguments : List String) (env : Environment)
    (file : Option String) : m UInt32 := do
  let env := match file with
    | some text => env.load text
    | none => env
  match CommandLine.parse arguments env with
  | .error stop =>
    let message := stop.message (CommandLine.programName program) env
    match stop with
    | .help | .version => host.present message
    | .badValue _ _ (.crashed _) => host.complain (crashReport message)
    | _ => host.complain message
    return exitCode stop
  | .ok s =>
    let (filter, complaints) := logFilter env s
    complaints.forM host.complain
    match filter with
    | none =>
      host.complain (crashReport DirectiveError.torn.message)
      return crashCode
    | some filter =>
      serve host s fun e => if filter.enables e then host.tell s.jsonLogs e else pure ()

end Service

end Floodgate
