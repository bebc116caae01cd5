import Floodgate.Http.RequestId
import Floodgate.Http.Wire
import Floodgate.Service
import Std.Async.Signal
import Std.Async.TCP
import Std.Async.Timer

/-!
# The program

The service on a real system: sockets, signals, clocks and standard streams. Each connection
carries one request.
-/

namespace Floodgate.Program

open Std.Async Std.Net

/-! ### Addresses -/

/-- A socket address of the system. -/
def toSystem : Socket → SocketAddress
  | .v4 q port => .v4 ⟨⟨#v[q.a, q.b, q.c, q.d]⟩, port⟩
  | .v6 gs h _ port => .v6 ⟨⟨⟨gs.toArray, by simpa using h⟩⟩, port⟩

/-- A socket address from the system. -/
def ofSystem : SocketAddress → Socket
  | .v4 a => .v4 ⟨a.addr.octets[0], a.addr.octets[1], a.addr.octets[2], a.addr.octets[3]⟩ a.port
  | .v6 a => .v6 a.addr.segments.toList (by simp) 0 a.port

/-! ### Serving -/

/-- What the connections share: the limiter and how many connections are open. -/
structure Shared where
  limiter : IO.Ref Limiter
  open_ : IO.Ref Nat
  started : Nat

/-- The limiter's clock: nanoseconds since the system started. -/
def clock : IO Instant := return ⟨UInt64.ofNat (← IO.monoNanosNow)⟩

/-- The time of day in whole seconds. -/
def timeOfDay : IO Nat := return (← Std.Time.Timestamp.now).toSecondsSinceUnixEpoch.val.toNat

/-- The greatest head of a request, in bytes. -/
def greatestHead : Nat := 65536

/-- The head of a connection's request. -/
partial def receive (client : TCP.Socket.Client) (seen : ByteArray) :
    Async (Option (List (List Char))) := do
  match (String.fromUTF8? seen).bind fun text => Http.splitHead text.toList with
  | some head => return some head
  | none =>
    if greatestHead < seen.size then return none
    match ← client.recv? 4096 with
    | some bytes => receive client (seen ++ bytes)
    | none => return none

/-- Answer the request of a connection. -/
def converse (shared : Shared) (handler : Handler) (tell : Event → IO Unit)
    (client : TCP.Socket.Client) : Async Unit := do
  try
    let peer := ofSystem (← client.getPeerName)
    let request := (← receive client .empty).bind fun head => Http.Request.ofHead head (some peer)
    match request with
    | none => client.send (Http.Response.bare 400).wire.toUTF8
    | some r =>
      let now ← clock
      let uptime := ((← IO.monoNanosNow) - shared.started) / nanosPerSecond
      let around : Circumstances := ⟨Http.requestId (← IO.getRandomBytes 16).toList, now, now,
        ← timeOfDay, uptime⟩
      let reply ← shared.limiter.modifyGet fun l =>
        let reply := handler l around r
        (reply, reply.limiter)
      client.send reply.response.wire.toUTF8
      reply.events.forM fun e => (tell e : IO Unit)
    client.shutdown
  catch _ => pure ()
  shared.open_.modify (· - 1)

/-- Serve connections, each on its own. -/
partial def accept (server : TCP.Socket.Server) (shared : Shared) (handler : Handler)
    (tell : Event → IO Unit) : Async Unit := do
  let client ← server.accept
  shared.open_.modify (· + 1)
  background (converse shared handler tell client)
  accept server shared handler tell

/-- The longest sleep, in milliseconds. -/
def longestSleep : Nat := 86400000

/-- Sweep whenever the janitor's schedule calls for it. -/
partial def sweep (shared : Shared) (tell : Event → IO Unit) (schedule : Schedule) :
    Async Unit := do
  let left := (schedule.wakes - (← IO.monoNanosNow)) / nanosPerMilli
  sleep (.ofNat (min (left + 1) longestSleep))
  let (ticks, schedule) := schedule.ticksAt (← IO.monoNanosNow)
  let now ← clock
  let events ← shared.limiter.modifyGet fun l =>
    let (l, events) := Premises.sweepTimes l now ticks.length
    (events, l)
  events.forM fun e => (tell e : IO Unit)
  sweep shared tell schedule

/-- Wait for a signal that ends the run. -/
def awaitSignal : Async Signal := do
  let interrupt ← Std.Async.Signal.Waiter.mk .sigint false
  let terminate ← Std.Async.Signal.Waiter.mk .sigterm false
  Selectable.one #[
    .case interrupt.selector fun _ => return .interrupt,
    .case terminate.selector fun _ => return .terminate]

/-- Wait until all connections have ended, for a limited number of steps of ten milliseconds. -/
def drain (shared : Shared) : Nat → Async Bool
  | 0 => return (← shared.open_.get) == 0
  | steps + 1 => do
    if (← shared.open_.get) == 0 then return true
    sleep 10
    drain shared steps

/-- The system as a host. -/
def system (server : TCP.Socket.Server) : Host IO where
  listen s := do
    try
      server.bind (toSystem s)
      server.listen 128
      return .ok (ofSystem (← server.getSockName))
    catch e => return .error e.toString
  now := clock
  attend s handler limiter tell := do
    let started ← IO.monoNanosNow
    let shared : Shared := ⟨← IO.mkRef limiter, ← IO.mkRef 0, started⟩
    Async.block do
      background (accept server shared handler tell)
      if let some schedule := Schedule.start? started s.sweepInterval.toNanos then
        background (sweep shared tell schedule)
      let signal ← awaitSignal
      let drained ← drain shared (min (s.shutdownGrace.toNanos / (10 * nanosPerMilli)) 360000)
      return ⟨signal, drained⟩
  tell asJson e := IO.println (if asJson then e.json.render else e.line)
  complain := IO.eprintln
  present := IO.print

/-- The nearest environment file, in the working directory or above it. -/
def environmentFile : IO (Option String) := do
  let mut place := some (← IO.currentDir)
  while true do
    let some directory := place | break
    let file := directory / ".env"
    if (← file.pathExists) && !(← file.isDir) then
      return ← (some <$> IO.FS.readFile file) <|> pure none
    place := directory.parent
  return none

/-- The variables that the program reads or that its environment file asks for. -/
def environment (file : Option String) : IO Environment := do
  let options := CommandLine.Opt.all.map CommandLine.Opt.envName
  let names := "RUST_LOG" :: options ++ Environment.mentioned (file.getD "")
  names.filterMapM fun name => return (← IO.getEnv name).map fun value => (name, value)

end Floodgate.Program

/-- Run the service until it is told to stop. -/
def main (arguments : List String) : IO UInt32 := do
  let path ← (some <$> IO.appPath) <|> pure none
  let file ← Floodgate.Program.environmentFile
  let server ← Std.Async.TCP.Socket.Server.mk
  Floodgate.Service.run (Floodgate.Program.system server) (path.map fun p => p.toString)
    arguments (← Floodgate.Program.environment file) file
