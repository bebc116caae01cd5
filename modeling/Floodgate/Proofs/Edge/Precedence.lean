import Floodgate.Proofs.Edge.Ending

/-!
# What a site answers behind all layers

A plain site has resources that answer with a text, at once or after a while, or panic. Behind all
layers a request to it ends in one of eight ways, and of those that apply the first one counts: a
preflight, no time at all, a refusal, an unknown path, a wrong method, a panic, an answer that is
late, and an answer in time. Every one of them is opened to other origins, and is charged unless it
is one of the first two.

Under a known path the body is left out when only the head was asked for. A resource and a request
that could both wait for more than thirty years wait equally long, and the request gives up first.

## Main definitions

* `Conduct`, `Site.plain` — what the resources of a plain site do
* `Edge.plainEnding` — which of the eight applies first

## Main results

* `Route.find?_map` — which route is taken does not depend on what it leads to
* `Edge.handle_plain` — how every request to a plain site ends
* `Edge.exceptional_endings` — a panic without its text, and an answer that is late in time
-/

namespace Floodgate

open Http

/-! ### Plain sites -/

/-- What a resource does: it answers with a text after some milliseconds, or it panics at once. -/
inductive Conduct where
  | answers (text : String) (millis : Nat)
  | panics (panic : Panic)

/-- How the resource answers. -/
def Conduct.served : Conduct → Served
  | answers text millis => .ok ⟨.text text, millis⟩
  | panics panic => .error panic

/-- How a request ends that has reached the resource: an answer is late that takes as long as it may
take, or when a timer waits for neither to end. -/
def Conduct.ending (limit : Span) : Conduct → Ending
  | answers text millis =>
    let waits := millis * nanosPerMilli
    if limit.toNanos ≤ waits ∨ longestWait ≤ limit.toNanos ∧ longestWait ≤ waits then .late
    else .answered (.text text)
  | panics panic => .panicked panic

namespace Route

variable {α β : Type}

/-- The same route to something else. -/
def map (f : Route α → β) (r : Route α) : Route β := ⟨r.path, r.pieces, f r⟩

/-- Which route is taken does not depend on what it leads to. -/
theorem find?_map (f : Route α → β) (routes : List (Route α)) (path : String) :
    find? (routes.map (map f)) path = (find? routes path).map (map f) := by
  have admitted : (routes.map (map f)).filter (·.admits path) =
      (routes.filter (·.admits path)).map (map f) := List.filter_map
  rw [find?, find?, admitted, List.foldl_map]
  change List.foldl _ (Option.map (map f) none) _ = _
  refine List.foldl_hom (Option.map (map f)) ?_
  intro best r
  cases best with
  | none => rfl
  | some s =>
    have same : (map f r).isExacterThan (map f s) = r.isExacterThan s := rfl
    rw [Option.map_some, Option.all_some, Option.all_some, same]
    split <;> rfl

end Route

namespace Site

/-- A site of such resources whose own answers are bare. -/
def plain (routes : List (Route (Visit → Conduct))) : Site :=
  .bare (routes.map (Route.map fun route v => (route.resource v).served))

theorem find?_plain (routes : List (Route (Visit → Conduct))) (path : String) :
    Route.find? (plain routes).routes path =
      (Route.find? routes path).map (Route.map fun route v => (route.resource v).served) :=
  Route.find?_map _ routes path

theorem knows_plain (routes : List (Route (Visit → Conduct))) (path : String) :
    (plain routes).knows path = (Route.find? routes path).isSome := by
  rw [knows, find?_plain, Option.isSome_map]

/-- What is done to answers in the end depends on the paths that a site knows. -/
theorem finish_congr {s s' : Site} (known : ∀ path, s'.knows path = s.knows path) :
    s'.finish = s.finish := by
  funext r response
  rw [finish, finish, known]

end Site

namespace Edge

variable {routes : List (Route (Visit → Conduct))} {limit : Span} {l l' : Limiter}
  {around : Circumstances} {r : Request}

/-- How a request to a plain site ends: the first of the ways that applies. -/
def plainEnding (routes : List (Route (Visit → Conduct))) (limit : Span) (l : Limiter)
    (around : Circumstances) (r : Request) : Ending :=
  if r.method = "OPTIONS" then .preflight
  else if limit.toNanos = 0 then .untimed
  else
    match l.charge around.charged r.clientKey with
    | (.refused tier, _) => .refused tier
    | (.admitted, l') =>
      match Route.find? routes r.target.path with
      | none => .answered (.bare 404)
      | some route =>
        if r.method ≠ "GET" ∧ r.method ≠ "HEAD" then .answered (.bare 405)
        else (route.resource ⟨l', around⟩).ending limit

/-! ### Serving -/

theorem reached_served (limit : Span) (conduct : Conduct) :
    reached limit conduct.served = conduct.ending limit := by
  cases conduct with
  | panics panic => rfl
  | answers text millis =>
    rw [Conduct.served, reached, Conduct.ending]
    simp only [isLate_iff]

/-- The site's own answers are there at once. -/
theorem reached_bare (timed : limit ≠ .zero) (status : UInt16) :
    reached limit (.ok ⟨.bare status, 0⟩) = .answered (.bare status) := by
  rw [reached, isLate_at_once timed, if_neg Bool.false_ne_true]

theorem not_isRetrieval_iff : r.isRetrieval = false ↔ r.method ≠ "GET" ∧ r.method ≠ "HEAD" := by
  rw [← Bool.not_eq_true, Request.isRetrieval_iff, not_or]

/-- How a request ends that a plain site serves. -/
theorem reached_plain (timed : limit ≠ .zero) (routes : List (Route (Visit → Conduct))) (v : Visit)
    (r : Request) :
    reached limit ((Site.plain routes).serve v r) =
      match Route.find? routes r.target.path with
      | none => .answered (.bare 404)
      | some route =>
        if r.method ≠ "GET" ∧ r.method ≠ "HEAD" then .answered (.bare 405)
        else (route.resource v).ending limit := by
  have found := Site.find?_plain routes r.target.path
  cases taken : Route.find? routes r.target.path with
  | none =>
    rw [taken, Option.map_none] at found
    rw [Site.serve_of_none v found]
    exact reached_bare timed 404
  | some route =>
    rw [taken, Option.map_some] at found
    rw [Site.serve_of_some v found]
    dsimp only
    cases asked : r.isRetrieval with
    | true =>
      rw [if_pos rfl, if_neg (mt not_isRetrieval_iff.2 (by simp [asked]))]
      exact reached_served limit _
    | false =>
      rw [if_neg Bool.false_ne_true, if_pos (not_isRetrieval_iff.1 asked)]
      exact reached_bare timed 405

theorem ending_plain (routes : List (Route (Visit → Conduct))) (limit : Span) (l : Limiter)
    (around : Circumstances) (r : Request) :
    ending (Site.plain routes) limit l around r = plainEnding routes limit l around r := by
  by_cases asked : r.method = "OPTIONS"
  · rw [ending_of_options _ limit l around asked, plainEnding, if_pos asked]
  by_cases timed : limit = .zero
  · rw [timed, ending_of_zero _ l around asked, plainEnding, if_neg asked, if_pos Span.toNanos_zero]
  have some_time := mt Span.toNanos_eq_zero_iff.1 timed
  rcases charged : l.charge around.charged r.clientKey with ⟨verdict, l'⟩
  rw [plainEnding, if_neg asked, if_neg some_time, charged]
  cases verdict with
  | refused tier => exact ending_of_refused _ timed asked charged
  | admitted =>
    rw [ending_of_admitted _ timed asked charged]
    exact reached_plain timed routes ⟨l', around⟩ r

/-! ### Every request -/

theorem first?_opened (response : Response) :
    (opened response).fields.first? "vary" = some preflight.varies ∧
      (opened response).fields.first? "access-control-allow-origin" = some "*" := by
  constructor
  · rw [opened, Response.first?_setField_of_ne _ _ (by decide),
      Response.first?_setField_of_ne _ _ (by decide), Response.first?_setField]
  · rw [opened, Response.first?_setField_of_ne _ _ (by decide), Response.first?_setField]

/-- Whatever way a request ends, its answer is open to other origins. -/
theorem first?_response (way : Ending) (requestId : String) :
    (way.response requestId).fields.first? "vary" = some preflight.varies ∧
      (way.response requestId).fields.first? "access-control-allow-origin" = some "*" := by
  cases way with
  | preflight => exact ⟨rfl, rfl⟩
  | untimed | refused | panicked | late | answered => exact first?_opened _

/-- Every request to a plain site ends in the first of the ways that applies. Where it is not let
through, the resources have no part in it. -/
theorem handle_plain (routes : List (Route (Visit → Conduct))) (limit : Span) (l : Limiter)
    (around : Circumstances) (r : Request) :
    let way := plainEnding routes limit l around r
    let reply := handle (Site.plain routes) limit l around r
    reply.response.status = way.status ∧
    reply.response.body =
      (if r.method = "HEAD" ∧ (Route.find? routes r.target.path).isSome = true then ""
        else way.body) ∧
    reply.limiter = (if way.isCharged then (l.charge around.charged r.clientKey).2 else l) ∧
    (way.isReached = false → ∀ conduct,
      handle (Site.plain (routes.map (Route.map conduct))) limit l around r = reply) ∧
    reply.response.fields.first? "vary" =
      some "origin, access-control-request-method, access-control-request-headers" ∧
    reply.response.fields.first? "access-control-allow-origin" = some "*" := by
  intro way reply
  have way_eq : ending (Site.plain routes) limit l around r = way :=
    ending_plain routes limit l around r
  have follows := handle_follows (Site.plain routes) limit l around r
  rw [way_eq] at follows
  have response_eq : reply.response = (Site.plain routes).finish r (way.response _) :=
    follows.response_eq
  obtain ⟨vary, origin⟩ := first?_response way around.requestId
  refine ⟨?_, ?_, follows.limiter_eq, fun unreached conduct => ?_, ?_, ?_⟩
  · rw [response_eq, Site.status_finish, way.status_response]
  · rw [response_eq, Site.body_finish, Site.knows_plain, way.body_response]
    simp only [and_comm]
  · let others := Site.plain (routes.map (Route.map conduct))
    have same : ending others limit l around r = way := by
      rw [← way_eq] at unreached
      exact (ending_of_not_isReached unreached).trans way_eq
    have finish : others.finish = (Site.plain routes).finish := Site.finish_congr fun path => by
      rw [Site.knows_plain, Site.knows_plain, Route.find?_map, Option.isSome_map]
    have follows' := handle_follows others limit l around r
    rw [same] at follows'
    exact follows.eq follows' finish
  · rw [response_eq, Site.first?_finish _ _ _ (by decide) (by decide)]
    exact vary
  · rw [response_eq, Site.first?_finish _ _ _ (by decide) (by decide)]
    exact origin

/-- A resource that panics, one that is quick and one that takes thirty-five years. -/
def mixed : List (Route (Visit → Conduct)) :=
  [.exact "/broken" fun _ => .panics ⟨some "boom"⟩, .exact "/quick" fun _ => .answers "here" 1,
    .exact "/slow" fun _ => .answers "at last" 1103760000000]

/-- A client that has spent its burst is refused, although the resource it asks for panics, and
would be refused by any other resource as well. -/
theorem refused_before_panic :
    let l := (Limiter.start .modest .base).chargeAll [(.base, "10.0.0.1"), (.base, "10.0.0.1")]
    let asked := asking "10.0.0.1" "GET" "/broken"
    let reply := handle (Site.plain mixed) (.ofSeconds 1) l asked.1 asked.2
    (plainEnding mixed (.ofSeconds 1) l asked.1 asked.2).isReached = false ∧
    reply.response.status = 429 ∧
    ∀ conduct, handle (Site.plain (mixed.map (Route.map conduct))) (.ofSeconds 1) l asked.1
      asked.2 = reply := by
  intro l asked reply
  have way_eq : plainEnding mixed (.ofSeconds 1) l asked.1 asked.2 = .refused .client := by
    decide +kernel
  have unreached : (plainEnding mixed (.ofSeconds 1) l asked.1 asked.2).isReached = false := by
    rw [way_eq]
    rfl
  obtain ⟨status, -, -, same, -, -⟩ := handle_plain mixed (.ofSeconds 1) l asked.1 asked.2
  rw [way_eq] at status
  exact ⟨unreached, status, same unreached⟩

/-- Where only the head was asked for, a panic is answered without its text. And where a request may
take forty years, an answer that takes thirty-five is late. -/
theorem exceptional_endings :
    let l := Limiter.start .modest .base
    let limit := Span.ofSeconds 1261440000
    let broken := asking "10.0.0.1" "HEAD" "/broken"
    let slow := asking "10.0.0.2" "GET" "/slow"
    let cut := handle (Site.plain mixed) limit l broken.1 broken.2
    let late := handle (Site.plain mixed) limit l slow.1 slow.2
    Limiter.new .modest .base = .ok l ∧
    (l.charge .base "10.0.0.1").1 = .admitted ∧ (l.charge .base "10.0.0.2").1 = .admitted ∧
    cut.response.status = 500 ∧ cut.response.body = "" ∧
    cut.response.body ≠ (Ending.panicked ⟨some "boom"⟩).body ∧
    1103760000000 * nanosPerMilli < limit.toNanos ∧
    late.response.status = 408 ∧ late.response.body ≠ "at last" := by
  intro l limit broken slow cut late
  refine ⟨Limiter.new_modest .base, ?_, ?_, ?_, ?_, ?_, ?_, ?_, ?_⟩ <;> decide +kernel

end Edge

end Floodgate
