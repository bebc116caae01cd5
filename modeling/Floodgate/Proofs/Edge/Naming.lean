import Floodgate.Proofs.Edge.Ending

/-!
# Names of requests

Behind all layers a request has one name. The router sees it, the answer carries it, and so does
what is told of the request, whatever name the client sent along and whatever names the router put
on its answer. Only an answer that does not come from within the layer that gives the name goes
without: the answer to a preflight, the one to a request that ran out of time, and the one that
stands for a panic.

What is told are the events of the gate's own. The tracing layer around it, which tells an error of
every answer with a status of 500 or more, is not counted.

## Main definitions

* `Event.value?` — what an event holds under a name
* `Router.SparesNames` — a router's last word on an answer leaves its name alone
* `Ending.isNamed` — a request that ends so is answered with its name

## Main results

* `Site.sparesNames` — sites leave names alone
* `Edge.handle_names` — where the name of a request is found, and where it is not
-/

namespace Floodgate

open Http

/-! ### Events -/

/-- The value that an event carries under a name. -/
def Event.value? (e : Event) (name : String) : Option LogValue := e.fields.lookup name

/-! ### Routers -/

/-- What is done to an answer in the end does not concern the name of the request. -/
def Router.SparesNames (router : Router) : Prop :=
  ∀ r response, (router.finish r response).fields.named "x-request-id" =
    response.fields.named "x-request-id"

/-- Sites tell lengths and methods in the end. -/
theorem Site.sparesNames (s : Site) : s.router.SparesNames := fun r response =>
  s.named_finish r response (by decide) (by decide)

/-! ### Endings -/

namespace Ending

/-- A request that ends so is answered with its name. -/
def isNamed : Ending → Bool
  | refused _ | answered _ => true
  | preflight | untimed | panicked _ | late => false

/-- A request that ends so is refused. -/
def isRefused : Ending → Bool
  | refused _ => true
  | _ => false

theorem isRefused_iff {ending : Ending} :
    ending.isRefused = true ↔ ∃ tier, ending = .refused tier := by
  cases ending <;> simp [isRefused]

/-- Only what is charged has a name. -/
theorem isCharged_of_isNamed {ending : Ending} (named : ending.isNamed = true) :
    ending.isCharged = true := by
  cases ending with
  | refused | answered => rfl
  | _ => exact absurd named Bool.false_ne_true

end Ending

namespace Edge

variable {router : Router} {limit : Span} {l : Limiter} {around : Circumstances} {r : Request}
  {reply : Reply} {way : Ending} {id : String}

theorem named_opened (response : Response) :
    (opened response).fields.named "x-request-id" = response.fields.named "x-request-id" := by
  rw [opened, Response.named_setField_of_ne _ _ (by decide),
    Response.named_setField_of_ne _ _ (by decide), Response.named_setField_of_ne _ _ (by decide)]

theorem named_response_of_isNamed (named : way.isNamed = true) (id : String) :
    (way.response id).fields.named "x-request-id" = [⟨"x-request-id", id⟩] := by
  cases way with
  | refused tier => exact (named_opened _).trans (Response.named_setField _ id _)
  | answered response => exact (named_opened _).trans (Response.named_setField response id _)
  | _ => exact absurd named Bool.false_ne_true

theorem named_response_of_not_isNamed (unnamed : way.isNamed = false) (id : String) :
    (way.response id).fields.named "x-request-id" = [] := by
  cases way with
  | preflight => rfl
  | untimed | late => exact (named_opened _).trans rfl
  | panicked panic => exact (named_opened _).trans rfl
  | refused | answered => exact absurd unnamed Bool.true_eq_false.mp

/-- The status of an answer is that of its way. -/
theorem Follows.status_eq (follows : Follows router l around r way reply) :
    reply.response.status = (way.response around.requestId).status := by
  rw [follows.response_eq, router.status_finish]

theorem Follows.named_of_isNamed (follows : Follows router l around r way reply)
    (spares : router.SparesNames) (named : way.isNamed = true) :
    reply.response.fields.named "x-request-id" = [⟨"x-request-id", around.requestId⟩] := by
  rw [follows.response_eq, spares]
  exact named_response_of_isNamed named around.requestId

/-- What is told of an answer that carries the name. -/
theorem info_events_of_isNamed (named : way.isNamed = true) (id : String) (r : Request) :
    (way.events id r).filter (·.level = .info) =
      [answeredEvent id r (way.response id).status] := by
  cases way with
  | refused tier => cases tier <;> rfl
  | answered response => rfl
  | _ => exact absurd named Bool.false_ne_true

theorem info_events_of_not_isNamed (unnamed : way.isNamed = false) (id : String) (r : Request) :
    (way.events id r).filter (·.level = .info) = [] := by
  cases way with
  | preflight | untimed | late | panicked => rfl
  | refused | answered => exact absurd unnamed Bool.true_eq_false.mp

theorem warn_events_of_refused (tier : Tier) (id : String) (r : Request) :
    ((Ending.refused tier).events id r).filter (·.level = .warn) = [refusedEvent id r] := by
  cases tier <;> rfl

/-! ### Every request -/

/-- A request that is refused or answered in time has its name on the answer, once, and whatever
else the name stands in has the same one: what the router sees and what is told. Nothing of this
depends on the header fields of the request. Other requests have no name on their answers, and
nothing is told of them but panics. -/
theorem handle_names (spares : router.SparesNames) (limit : Span) (l : Limiter)
    (around : Circumstances) (r : Request) :
    let id := around.requestId
    let way := ending router limit l around r
    let reply := handle router limit l around r
    let told := fun level => reply.events.filter (·.level = level)
    (way.isNamed = true →
      reply.response.fields.named "x-request-id" = [⟨"x-request-id", id⟩] ∧
      (∃ event, told .info = [event] ∧ event.message = "HTTP request" ∧
        event.value? "request_id" = some (.shown id) ∧
        event.value? "status" = some (.count reply.response.status.toNat) ∧
        event.value? "client_ip" = some (.shown r.clientKey)) ∧
      reply.limiter = (l.charge around.charged r.clientKey).2) ∧
    (way.isRefused = true → reply.response.status = 429 ∧
      ∃ event, told .warn = [event] ∧ event.message = "Rate limit exceeded" ∧
        event.value? "request_id" = some (.shown id)) ∧
    (way.isNamed = false →
      reply.response.fields.named "x-request-id" = [] ∧ told .info = []) ∧
    (∀ panic, way = .panicked panic →
      ∃ event, told .error = [event] ∧ event.message = "HTTP request panic recovered" ∧
        event.value? "panic" = some (.shown (panic.text.getD "unknown panic"))) ∧
    (∀ serve, (∀ v, v.around.requestId = id → serve v r = router.serve v r) →
      handle { router with serve } limit l around r = reply) ∧
    (∀ fields, (ending router limit l around { r with fields }).isNamed = true →
      (handle router limit l around { r with fields }).response.fields.named "x-request-id" =
        [⟨"x-request-id", id⟩]) := by
  intro id way reply told
  have follows : Follows router l around r way reply := handle_follows router limit l around r
  have status_eq := follows.status_eq
  have told_eq : ∀ level, told level = (way.events id r).filter (·.level = level) :=
    fun level => congrArg (List.filter _) follows.events_eq
  refine ⟨fun named => ⟨?_, ?_, ?_⟩, fun refused => ?_, fun unnamed => ⟨?_, ?_⟩, ?_, ?_, ?_⟩
  · exact follows.named_of_isNamed spares named
  · refine ⟨answeredEvent id r reply.response.status, ?_, rfl, rfl, rfl, rfl⟩
    rw [told_eq, status_eq]
    exact info_events_of_isNamed named id r
  · rw [follows.limiter_eq, Ending.limiter, if_pos (Ending.isCharged_of_isNamed named)]
  · obtain ⟨tier, way_eq⟩ := Ending.isRefused_iff.1 refused
    refine ⟨?_, refusedEvent id r, ?_, rfl, rfl⟩
    · rw [status_eq, way_eq]
      rfl
    · rw [told_eq, way_eq]
      exact warn_events_of_refused tier id r
  · rw [follows.response_eq, spares]
    exact named_response_of_not_isNamed unnamed id
  · exact (told_eq _).trans (info_events_of_not_isNamed unnamed id r)
  · intro panic way_eq
    refine ⟨panicEvent panic, ?_, rfl, rfl⟩
    rw [told_eq, way_eq]
    rfl
  · intro serve same
    have follows' := handle_follows { router with serve } limit l around r
    rw [ending_congr fun l' => same ⟨l', around⟩ rfl] at follows'
    exact follows.eq follows' rfl
  · intro fields named
    exact (handle_follows router limit l around { r with fields }).named_of_isNamed spares named

/-- A site with a resource that tells the name it sees and answers under another one, and one that
panics. -/
def pretender : Site :=
  .bare [.exact "/name" fun v =>
      .ok ⟨(Response.text v.around.requestId).setField "x-request-id" "assumed", 0⟩,
    .exact "/broken" fun _ => .error ⟨none⟩]

/-- A request that claims to be named already. -/
def claiming (path : String) : Circumstances × Request :=
  (⟨"given", .base, .base, 0, 0⟩,
    ⟨"GET", ⟨path, ""⟩, [⟨"x-request-id", "claimed"⟩, ⟨"x-real-ip", "10.0.0.1"⟩], none⟩)

/-- Neither the name that the client claims nor the one that the resource assumes counts, and a
panic has no name at all. -/
theorem pretender_names :
    let l := Limiter.start .modest .base
    let asked := claiming "/name"
    let reply := handle pretender (.ofSeconds 1) l asked.1 asked.2
    let broken := handle pretender (.ofSeconds 1) l asked.1 (claiming "/broken").2
    pretender.router.SparesNames ∧ reply.response.body = "given" ∧
    reply.response.fields.named "x-request-id" = [⟨"x-request-id", "given"⟩] ∧
    (∃ event, reply.events.filter (·.level = .info) = [event] ∧
      event.value? "request_id" = some (.shown "given")) ∧
    broken.response.fields.named "x-request-id" = [] ∧
    (∃ event, broken.events.filter (·.level = .error) = [event] ∧
      event.value? "panic" = some (.shown "unknown panic")) := by
  intro l asked reply broken
  have spares := pretender.sparesNames
  obtain ⟨named, -, -, -, -, -⟩ := handle_names spares (.ofSeconds 1) l asked.1 asked.2
  obtain ⟨-, -, unnamed, panicked, -, -⟩ :=
    handle_names spares (.ofSeconds 1) l asked.1 (claiming "/broken").2
  obtain ⟨names, ⟨event, info, -, id, -, -⟩, -⟩ := named (by decide +kernel)
  obtain ⟨noNames, -⟩ := unnamed (by decide +kernel)
  obtain ⟨event', error, -, panic⟩ := panicked ⟨none⟩ (by decide +kernel)
  exact ⟨spares, by decide +kernel, names, ⟨event, info, id⟩, noNames, ⟨event', error, panic⟩⟩

end Edge

end Floodgate
