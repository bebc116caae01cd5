import Floodgate.Edge.Route
import Floodgate.Http.Message
import Floodgate.Limiter.Basic

/-!
# Sites

What is behind the edge is a router, which may answer requests in any way. A site is one that is
given by a table of routes to resources, each of which answers retrievals, and by what is answered
for other paths and other methods.

## Main definitions

* `Visit` — what a resource can see when it is asked
* `Answer`, `Panic`, `Served` — how a resource answers
* `Router` — any way to answer requests
* `Site` — the table
* `Site.serve` — the answer to a request
* `Site.router` — a site is a router
-/

namespace Floodgate

/-- What surrounds one request: the name it is given, the limiter's clock when it is charged and
when it is answered, and the time of day and since the start in whole seconds. -/
structure Circumstances where
  requestId : String
  charged : Instant
  answered : Instant
  timestamp : Nat
  uptime : Nat

/-- What a resource can see. -/
structure Visit where
  limiter : Limiter
  around : Circumstances

/-- An answer, and after how many milliseconds it comes. -/
structure Answer where
  response : Http.Response
  millis : Nat := 0

/-- A panic, with a text or something else. -/
structure Panic where
  text : Option String
  deriving DecidableEq, Repr

/-- How a resource answers, or that it panics. A panic comes at once. A resource that waits and then
panics counts as one that panics if it does so in time, since nothing of the wait is seen from
outside, and else as one whose answer is late, since it is given up before it can panic. -/
abbrev Served := Except Panic Answer

/-- What is behind the edge: how requests are answered, unless they are not let through, and what
is done in the end to every answer. Resources may look at the limiter but do not charge it, and an
answer keeps its status in the end. -/
structure Router where
  serve : Visit → Http.Request → Served
  finish : Http.Request → Http.Response → Http.Response
  status_finish : ∀ r response, (finish r response).status = response.status

/-- What is under a path. -/
abbrev Resource := Visit → Served

/-- A table of routes to resources. -/
structure Site where
  routes : List (Route Resource)
  unknownPath : (path : String) → Http.Response
  wrongMethod : (method path : String) → Http.Response

namespace Site

/-- The site has a resource under this path. -/
def knows (s : Site) (path : String) : Bool := (Route.find? s.routes path).isSome

/-- The answer to a request. -/
def serve (s : Site) (v : Visit) (r : Http.Request) : Served :=
  match Route.find? s.routes r.target.path with
  | none => .ok ⟨s.unknownPath r.target.path, 0⟩
  | some route =>
    if r.isRetrieval then route.resource v
    else .ok ⟨s.wrongMethod r.method r.target.path, 0⟩

/-- A site whose own answers are bare. -/
def bare (routes : List (Route Resource)) : Site where
  routes := routes
  unknownPath _ := .bare 404
  wrongMethod _ _ := .bare 405

/-- What is done to every answer under a path: the length of the body is told; a request under a
known path that is no retrieval learns of the methods, and only the head is sent when only the
head was asked for. -/
def finish (s : Site) (r : Http.Request) (response : Http.Response) : Http.Response :=
  let known := s.knows r.target.path
  let response := response.setField "content-length" (Decimal.text response.body.utf8ByteSize)
  let response := if known && !r.isRetrieval then response.setField "allow" "GET,HEAD"
    else response
  if known && r.method == "HEAD" then { response with body := "" } else response

theorem status_finish (s : Site) (r : Http.Request) (response : Http.Response) :
    (s.finish r response).status = response.status := by
  unfold finish
  dsimp only
  split
  · split <;> rfl
  · split <;> rfl

/-- The site as a router. -/
def router (s : Site) : Router := ⟨s.serve, s.finish, s.status_finish⟩

instance : Coe Site Router := ⟨router⟩

end Site

end Floodgate
