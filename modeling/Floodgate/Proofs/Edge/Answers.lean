import Floodgate.Proofs.Edge.Charging
import Floodgate.Proofs.Http.Fields

/-!
# What the gateway answers

Every request to the gateway is answered in one of a few ways: as a preflight, by the limiter's
refusal, with a page, or by a complaint about an unknown path or about a method that a page is not
for. Which of them it is depends on the method, on the charge and on the path alone, since pages are
there at once. Under a page's path the body of an answer is left out when only the head was asked
for, be it the page or a refusal; under unknown paths it is not.

## Main definitions

* `Edge.pages`, `Visit.page?` — the gateway's paths, and what is under them
* `Edge.Tells` — what an answer tells: a status and a body, which may be left out

## Main results

* `Site.body_finish`, `Site.length_finish` — what is left of a body, and the length that is told
* `Site.named_finish` — what else an answer tells stays as it is
* `Edge.serve_gateway` — what the gateway says to an admitted request
* `Edge.gateway_answers` — what it answers to every request
-/

namespace Floodgate

open Http

/-! ### Sites -/

namespace Site

variable {s : Site} {r : Request} {response : Response}

theorem body_finish (s : Site) (r : Request) (response : Response) :
    (s.finish r response).body =
      if s.knows r.target.path = true ∧ r.method = "HEAD" then "" else response.body := by
  unfold finish
  dsimp only
  split_ifs <;> simp_all

/-- In the end the length of the body is told, and perhaps the methods are. -/
theorem fields_finish (s : Site) (r : Request) (response : Response) :
    let told := response.setField "content-length" (Decimal.text response.body.utf8ByteSize)
    (s.finish r response).fields = told.fields ∨
      (s.finish r response).fields = (told.setField "allow" "GET,HEAD").fields := by
  unfold finish
  dsimp only
  split_ifs
  · exact .inr rfl
  · exact .inl rfl
  · exact .inr rfl
  · exact .inl rfl

/-- The length that is told is that of the whole body. -/
theorem length_finish (s : Site) (r : Request) (response : Response) :
    (s.finish r response).fields.first? "content-length" =
      some (Decimal.text response.body.utf8ByteSize) := by
  obtain fields | fields := s.fields_finish r response
  · rw [fields, Response.first?_setField]
  · rw [fields, Response.first?_setField_of_ne _ _ (by decide), Response.first?_setField]

/-- Header fields other than those of lengths and methods are left as they are in the end. -/
theorem named_finish (s : Site) (r : Request) (response : Response) {name : String}
    (length : name ≠ "content-length") (methods : name ≠ "allow") :
    (s.finish r response).fields.named name = response.fields.named name := by
  obtain fields | fields := s.fields_finish r response
  · rw [fields, Response.named_setField_of_ne _ _ length]
  · rw [fields, Response.named_setField_of_ne _ _ methods,
      Response.named_setField_of_ne _ _ length]

theorem first?_finish (s : Site) (r : Request) (response : Response) {name : String}
    (length : name ≠ "content-length") (methods : name ≠ "allow") :
    (s.finish r response).fields.first? name = response.fields.first? name := by
  rw [Fields.first?_eq_named, s.named_finish r response length methods, ← Fields.first?_eq_named]

/-- A site without a route to a path answers for an unknown one. -/
theorem serve_of_none (v : Visit) (unknown : Route.find? s.routes r.target.path = none) :
    s.serve v r = .ok ⟨s.unknownPath r.target.path, 0⟩ := by
  rw [serve, unknown]

theorem serve_of_some {route : Route Resource} (v : Visit)
    (known : Route.find? s.routes r.target.path = some route) :
    s.serve v r = if r.isRetrieval then route.resource v
      else .ok ⟨s.wrongMethod r.method r.target.path, 0⟩ := by
  rw [serve, known]

end Site

/-! ### The gateway -/

/-- What the gateway has under a path, as it is seen on a visit. -/
def Visit.page? (v : Visit) (path : String) : Option Json :=
  if path = "/health" then some (healthJson v.around.timestamp v.around.uptime v.stats)
  else if path = "/ready" then some (readyJson v.around.timestamp)
  else if path = "/rate-limit/stats" then some v.stats.json
  else none

theorem Http.Request.isRetrieval_iff {r : Request} :
    r.isRetrieval = true ↔ r.method = "GET" ∨ r.method = "HEAD" := by
  rw [isRetrieval, Bool.or_eq_true, beq_iff_eq, beq_iff_eq]

/-- An admitted request is counted. -/
theorem Limiter.Charged.one_le_trackedClients {l l' : Limiter} {now : Instant} {client : String}
    (charged : l.Charged now client .admitted l') : 1 ≤ l'.trackedClients := by
  cases charged
  exact Nat.succ_pos _

namespace Edge

/-- The paths under which the gateway has something. -/
def pages : List String := ["/health", "/ready", "/rate-limit/stats"]

/-- An answer tells a status and a body. The length is the body's; the body itself is left out when
only the head was asked for of what is under one of the gateway's paths. -/
structure Tells (r : Request) (response : Response) (status : UInt16) (body : String) : Prop where
  status_eq : response.status = status
  length_eq : response.fields.first? "content-length" = some (Decimal.text body.utf8ByteSize)
  body_eq : response.body = if r.method = "HEAD" ∧ r.target.path ∈ pages then "" else body

variable {limit : Span} {l l' : Limiter} {around : Circumstances} {r : Request}

/-- The gateway has a route to each of its paths and to no other, and a page under it. -/
theorem find?_gateway (v : Visit) (path : String) :
    (Route.find? gateway.routes path).map (fun route => route.resource v) =
      (v.page? path).map fun page => .ok ⟨.json 200 page, 0⟩ := by
  unfold Visit.page?
  simp only [Route.find?, gateway, List.filter_cons, Route.admits_exact_iff, List.filter_nil]
  split_ifs <;> simp_all [Route.exact]

theorem page?_isSome_iff (v : Visit) (path : String) :
    (v.page? path).isSome = true ↔ path ∈ pages := by
  simp only [Visit.page?, pages, List.mem_cons, List.not_mem_nil, or_false]
  split_ifs <;> simp_all

theorem knows_gateway_iff (path : String) : gateway.knows path = true ↔ path ∈ pages := by
  have v : Visit := ⟨.start .modest .base, ⟨"", .base, .base, 0, 0⟩⟩
  have found := congrArg Option.isSome (find?_gateway v path)
  rw [Option.isSome_map, Option.isSome_map] at found
  rw [Site.knows, found, page?_isSome_iff]

/-- What is there when the gateway's answer comes back through the layers. -/
theorem tells_finish (r : Request) (response : Response) :
    Tells r (gateway.finish r response) response.status response.body := by
  refine ⟨gateway.status_finish r response, gateway.length_finish r response, ?_⟩
  rw [gateway.body_finish]
  simp only [knows_gateway_iff, and_comm]

/-- What the gateway says to an admitted request. -/
def said (v : Visit) (r : Request) : Response :=
  match v.page? r.target.path with
  | none => .json 404 (RouteErrorBody.notFound r.target.path).json
  | some page =>
    if r.isRetrieval then .json 200 page
    else .json 405 (RouteErrorBody.methodNotAllowed r.method r.target.path).json

theorem said_of_none {v : Visit} (unknown : v.page? r.target.path = none) :
    said v r = .json 404 (RouteErrorBody.notFound r.target.path).json := by
  rw [said, unknown]

theorem said_of_retrieval {v : Visit} {page : Json} (found : v.page? r.target.path = some page)
    (asked : r.isRetrieval = true) : said v r = .json 200 page := by
  rw [said, found]
  exact if_pos asked

theorem said_of_not_retrieval {v : Visit} {page : Json}
    (found : v.page? r.target.path = some page) (asked : r.isRetrieval ≠ true) :
    said v r = .json 405 (RouteErrorBody.methodNotAllowed r.method r.target.path).json := by
  rw [said, found]
  exact if_neg asked

/-- It says so at once. -/
theorem serve_gateway (v : Visit) (r : Request) : gateway.serve v r = .ok ⟨said v r, 0⟩ := by
  have found := find?_gateway v r.target.path
  cases routed : Route.find? gateway.routes r.target.path with
  | none =>
    rw [routed, Option.map_none, eq_comm, Option.map_eq_none_iff] at found
    rw [Site.serve_of_none v routed, said_of_none found]
    rfl
  | some route =>
    rw [routed, Option.map_some, eq_comm, Option.map_eq_some_iff] at found
    obtain ⟨page, found, resource⟩ := found
    rw [Site.serve_of_some v routed, ← resource]
    split_ifs with asked
    · rw [said_of_retrieval found asked]
    · rw [said_of_not_retrieval found asked]
      rfl

/-! ### Every request -/

theorem tells_of_preflight (limit : Span) (l : Limiter) (around : Circumstances)
    (asked : r.method = "OPTIONS") :
    (handle gateway limit l around r).limiter = l ∧
      Tells r (handle gateway limit l around r).response 200 "" := by
  rw [handle_of_options gateway limit l around asked]
  exact ⟨rfl, tells_finish r preflight⟩

theorem tells_of_refused {tier : Tier} (timed : limit ≠ .zero) (other : r.method ≠ "OPTIONS")
    (charged : l.charge around.charged r.clientKey = (.refused tier, l')) :
    (handle gateway limit l around r).limiter = l' ∧
      Tells r (handle gateway limit l around r).response 429 Failure.limited.body.json.render := by
  rw [(treated timed gateway l around r).eq_of_refused other charged]
  exact ⟨rfl, tells_finish r (opened (refusal around.requestId))⟩

theorem tells_of_admitted (timed : limit ≠ .zero) (other : r.method ≠ "OPTIONS")
    (charged : l.charge around.charged r.clientKey = (.admitted, l')) :
    (handle gateway limit l around r).limiter = l' ∧
      Tells r (handle gateway limit l around r).response (said ⟨l', around⟩ r).status
        (said ⟨l', around⟩ r).body := by
  have treated := treated timed gateway l around r
  generalize handle gateway limit l around r = reply at treated
  cases treated with
  | preflight asked => exact absurd asked other
  | refused _ charged' => exact nomatch charged'.symm.trans charged
  | answered _ charged' served _ =>
    cases charged'.symm.trans charged
    cases served.symm.trans (serve_gateway _ r)
    exact ⟨rfl, tells_finish r (opened ((said ⟨l', around⟩ r).setField _ around.requestId))⟩
  | late _ charged' served late =>
    cases served.symm.trans (serve_gateway _ r)
    rw [isLate_at_once timed] at late
    exact absurd late Bool.false_ne_true
  | panicked _ _ served => exact nomatch served.symm.trans (serve_gateway _ r)

/-- What is told to a client that asks too much. -/
theorem render_limited : Failure.limited.body.json.render =
    "\x7b\"status\":429,\"message\":\"Rate limit exceeded\"\x7d" := by decide +kernel

/-- Every request to the gateway is answered in one of these ways, on which the method, the charge
and the path decide. What an answer tells of the limiter is what holds after the request's charge.
-/
theorem gateway_answers (timed : limit ≠ .zero) (l : Limiter) (around : Circumstances)
    (r : Request) :
    let reply := handle gateway limit l around r
    let charged := l.charge around.charged r.clientKey
    let visit : Visit := ⟨reply.limiter, around⟩
    let path := r.target.path
    (r.method = "OPTIONS" → reply.limiter = l ∧ Tells r reply.response 200 "") ∧
    (r.method ≠ "OPTIONS" → reply.limiter = charged.2 ∧
      (charged.1.isAdmitted = false → Tells r reply.response 429
        "\x7b\"status\":429,\"message\":\"Rate limit exceeded\"\x7d") ∧
      (charged.1.isAdmitted = true →
        1 ≤ visit.stats.trackedClients ∧
        (path ∉ pages → Tells r reply.response 404 (RouteErrorBody.notFound path).json.render) ∧
        (path ∈ pages → ∃ page, visit.page? path = some page ∧
          (r.method = "GET" ∨ r.method = "HEAD" → Tells r reply.response 200 page.render) ∧
          (r.method ≠ "GET" → r.method ≠ "HEAD" → Tells r reply.response 405
            (RouteErrorBody.methodNotAllowed r.method path).json.render) ∧
          (r.method = "HEAD" →
            (handle gateway limit l around { r with method := "GET" }).response.body =
              page.render)))) := by
  intro reply charged visit path
  refine ⟨tells_of_preflight limit l around, fun other => ?_⟩
  have way := l.charged around.charged r.clientKey
  rcases decided : l.charge around.charged r.clientKey with ⟨verdict, l'⟩
  have charged_eq : charged = (verdict, l') := decided
  rw [charged_eq]
  rw [decided] at way
  cases verdict with
  | refused tier =>
    obtain ⟨limiter_eq, tells⟩ := tells_of_refused timed other decided
    rw [render_limited] at tells
    exact ⟨limiter_eq, fun _ => tells, fun admitted => absurd admitted Bool.false_ne_true⟩
  | admitted =>
    obtain ⟨limiter_eq, tells⟩ := tells_of_admitted timed other decided
    have visit_eq : visit = ⟨l', around⟩ := congrArg (Visit.mk · around) limiter_eq
    rw [← visit_eq] at tells
    refine ⟨limiter_eq, fun refused => absurd refused Bool.true_eq_false.mp, fun _ => ⟨?_, ?_, ?_⟩⟩
    · rw [visit_eq]
      exact way.one_le_trackedClients
    · intro unknown
      rw [← page?_isSome_iff visit, Option.not_isSome_iff_eq_none] at unknown
      rw [said_of_none unknown] at tells
      exact tells
    · intro known
      rw [← page?_isSome_iff visit, Option.isSome_iff_exists] at known
      obtain ⟨page, found⟩ := known
      refine ⟨page, found, ?_, ?_, fun _ => ?_⟩
      · intro asked
        rw [said_of_retrieval found (Request.isRetrieval_iff.2 asked)] at tells
        exact tells
      · intro notGet notHead
        rw [said_of_not_retrieval found
          (mt Request.isRetrieval_iff.1 (not_or.2 ⟨notGet, notHead⟩))] at tells
        exact tells
      · -- The method does not tell whom to charge.
        obtain ⟨-, got⟩ :=
          tells_of_admitted (r := { r with method := "GET" }) timed (by simp) decided
        rw [← visit_eq, said_of_retrieval (r := { r with method := "GET" }) found rfl] at got
        rw [got.body_eq, if_neg (by simp)]
        rfl

/-- A client asks for the head of a snapshot, which is as long as the snapshot. -/
theorem gateway_answers_head :
    let l := Limiter.start .modest .base
    let asked := asking "10.0.0.1" "HEAD" "/rate-limit/stats"
    let reply := handle gateway (.ofSeconds 1) l asked.1 asked.2
    let got := handle gateway (.ofSeconds 1) l asked.1 { asked.2 with method := "GET" }
    let visit : Visit := ⟨reply.limiter, asked.1⟩
    Span.ofSeconds 1 ≠ .zero ∧ reply.response.status = 200 ∧ reply.response.body = "" ∧
      reply.response.fields.first? "content-length" =
        some (Decimal.text got.response.body.utf8ByteSize) ∧
      got.response.body = visit.stats.json.render ∧ 1 ≤ visit.stats.trackedClients := by
  intro l asked reply got visit
  have timed : Span.ofSeconds 1 ≠ .zero := by decide
  obtain ⟨-, answered⟩ := gateway_answers timed l asked.1 asked.2
  obtain ⟨-, -, admitted⟩ := answered (by decide)
  obtain ⟨tracked, -, found⟩ := admitted (by decide +kernel)
  obtain ⟨page, page_eq, retrieved, -, whole⟩ := found (by decide)
  obtain ⟨status_eq, length_eq, body_eq⟩ := retrieved (.inr rfl)
  have whole : got.response.body = page.render := whole rfl
  have page_eq : some visit.stats.json = some page := page_eq
  refine ⟨timed, status_eq, body_eq, ?_, ?_, tracked⟩
  · rw [whole]
    exact length_eq
  · rw [whole, Option.some.inj page_eq]

/-- A client that has spent its burst asks for the head of a page, and is refused without a body. -/
theorem refused_head_without_body :
    let l := (Limiter.start .modest .base).chargeAll [(.base, "10.0.0.1"), (.base, "10.0.0.1")]
    let asked := asking "10.0.0.1" "HEAD" "/ready"
    let reply := handle gateway (.ofSeconds 1) l asked.1 asked.2
    Limiter.new .modest .base = .ok (.start .modest .base) ∧ Span.ofSeconds 1 ≠ .zero ∧
      asked.2.method ≠ "OPTIONS" ∧
      (l.charge asked.1.charged asked.2.clientKey).1 = .refused .client ∧
      reply.response.status = 429 ∧ reply.response.body = "" ∧
      reply.response.body ≠ "\x7b\"status\":429,\"message\":\"Rate limit exceeded\"\x7d" := by
  refine ⟨Limiter.new_modest .base, by decide, by decide, ?_, ?_, ?_, ?_⟩ <;> decide +kernel

end Edge

end Floodgate
