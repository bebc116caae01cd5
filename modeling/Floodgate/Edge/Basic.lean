import Floodgate.Edge.Site
import Floodgate.Failure
import Floodgate.Http.ClientKey

/-!
# The edge

What every request passes on its way to a router and back. From the outside in: preflights are
answered at once and all other answers are opened to other origins; a request that takes too long
is given up; a panic becomes an answer; the request gets a name and is logged; its client is
charged.

Around all of this the gateway has a layer for tracing, which changes neither requests nor answers
and is left out. What it tells by itself under the target `tower_http`, of every request and answer
for debugging and as an error of every answer with a status of 500 or more, is not among the events
here: they are the gate's own, under targets that begin with `gatekeeper`.

## Main definitions

* `Passage` — a request on its way back from a router
* `Edge.limited`, `Edge.logged`, `Edge.recovered`, `Edge.timed` — the layers, inside out
* `Edge.handle` — a router behind all layers
* `Edge.handleLimited` — a router behind the limiter alone
-/

namespace Floodgate

open Http

/-- A request on its way back: how it is answered, the limiter after it, the events it has caused
so far, and those that are told once the answer is there. -/
structure Passage (α : Type) where
  served : α
  limiter : Limiter
  events : List Event
  pending : List Event

/-- The answer to a request, the limiter after it and the events of the gate's own that it caused,
without those of the tracing layer. -/
structure Reply where
  response : Response
  limiter : Limiter
  events : List Event

/-- The answer to the client of a failed request. -/
def Failure.response (f : Failure) : Response := .json f.status f.body.json

namespace Edge

/-! ### Events -/

/-- The event of a request that is refused. -/
def refusedEvent (requestId : String) (r : Request) : Event :=
  ⟨.warn, "gatekeeper::middleware", "Rate limit exceeded",
    [("request_id", .shown requestId), ("client_ip", .shown r.clientKey),
      ("path", .shown r.target.path), ("method", .shown r.method)]⟩

/-- The event of a request that is answered. Its field `duration_ms`, the real time that the answer
took, is left out. -/
def answeredEvent (requestId : String) (r : Request) (status : UInt16) : Event :=
  ⟨.info, "gatekeeper::middleware", "HTTP request",
    [("request_id", .shown requestId), ("method", .shown r.method),
      ("path", .shown r.target.path), ("query", .shown r.target.query),
      ("client_ip", .shown r.clientKey),
      ("user_agent", .shown ((r.fields.readable? "user-agent").getD "")),
      ("status", .count status.toNat)]⟩

/-- What a panic is said to have told. -/
def panicDetail (p : Panic) : String := p.text.getD "unknown panic"

/-- The event of a panic. Its field `backtrace` is left out. -/
def panicEvent (p : Panic) : Event :=
  ⟨.error, "gatekeeper::handlers", "HTTP request panic recovered",
    [("panic", .shown (panicDetail p))]⟩

/-! ### Layers -/

/-- The answer to the client when a resource panicked. -/
def panicResponse (p : Panic) : Response := (Failure.internal ("panic: " ++ panicDetail p)).response

/-- Charge the request to its client; only an admitted one reaches the router. -/
def limited (router : Router) (requestId : String) (l : Limiter) (around : Circumstances)
    (r : Request) : Passage Served :=
  let (verdict, l) := l.charge around.charged r.clientKey
  if verdict.isAdmitted then ⟨router.serve ⟨l, around⟩ r, l, [], []⟩
  else ⟨.ok ⟨Failure.limited.response, 0⟩, l,
    verdict.events r.clientKey ++ [refusedEvent requestId r], []⟩

/-- Name the answer after the request, and log it once it is there. A panic passes by. -/
def logged (requestId : String) (r : Request) (p : Passage Served) : Passage Served :=
  match p.served with
  | .ok answer =>
    { p with
      served := .ok { answer with
        response := answer.response.setField "x-request-id" requestId }
      pending := p.pending ++ [answeredEvent requestId r answer.response.status] }
  | .error _ => p

/-- Answer for a resource that panicked. -/
def recovered (p : Passage Served) : Passage Answer :=
  match p.served with
  | .ok answer => { p with served := answer }
  | .error panic =>
    { p with served := ⟨panicResponse panic, 0⟩, events := p.events ++ [panicEvent panic] }

/-- The answer that is there in the end. -/
def settled (p : Passage Answer) : Reply :=
  ⟨p.served.response, p.limiter, p.events ++ p.pending⟩

/-- Whether an answer takes at least as long as it may. -/
def isLate (limit : Span) (a : Answer) : Bool :=
  waited limit.toNanos ≤ waited (a.millis * nanosPerMilli)

/-- The answer, or a bare one when it takes too long. Where there is no time at all, the request
goes no further, and `l` is left as it was. -/
def timed (limit : Span) (l : Limiter) (p : Passage Answer) : Reply :=
  if limit = .zero then ⟨.bare 408, l, []⟩
  else if isLate limit p.served then ⟨.bare 408, p.limiter, p.events⟩
  else settled p

/-- The answer to a preflight: any origin may send anything. -/
def preflight : Response :=
  ⟨200, [⟨"access-control-allow-origin", "*"⟩, ⟨"access-control-allow-methods", "*"⟩,
    ⟨"access-control-allow-headers", "*"⟩, ⟨"vary", varies⟩], ""⟩
where
  /-- The request fields that an answer may depend on. -/
  varies : String := "origin, access-control-request-method, access-control-request-headers"

/-- An answer that any origin may see. -/
def opened (response : Response) : Response :=
  ((response.setField "vary" preflight.varies).setField "access-control-allow-origin" "*").setField
    "access-control-expose-headers" "*"

/-! ### Handling requests -/

/-- Handle a request by a router behind all layers. -/
def handle (router : Router) (limit : Span) (l : Limiter) (around : Circumstances) (r : Request) :
    Reply :=
  let reply :=
    -- A preflight is answered before anything is charged or told.
    if r.method = "OPTIONS" then ⟨preflight, l, []⟩
    else
      let id := around.requestId
      let reply := timed limit l (recovered (logged id r (limited router id l around r)))
      { reply with response := opened reply.response }
  { reply with response := router.finish r reply.response }

/-- Handle a request by a router behind the limiter alone, where requests have no names and nothing
answers for a panic. -/
def handleLimited (router : Router) (l : Limiter) (around : Circumstances) (r : Request) :
    Except Panic Reply :=
  let passage := limited router "-" l around r
  passage.served.map fun answer =>
    let reply := settled { passage with served := answer }
    { reply with response := router.finish r reply.response }

/-- Handle requests one after the other, each in its circumstances. -/
def handleAll (router : Router) (limit : Span) (l : Limiter) :
    List (Circumstances × Request) → Limiter × List Reply
  | [] => (l, [])
  | (around, r) :: rest =>
    let reply := handle router limit l around r
    let (l, replies) := handleAll router limit reply.limiter rest
    (l, reply :: replies)

end Edge

end Floodgate
