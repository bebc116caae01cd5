import Floodgate.Edge.Gateway
import Floodgate.Proofs.Limiter.Reachable

/-!
# Charging at the edge

Behind all layers every request but a preflight is charged to its client, once and before anything
else is done with it. Whatever the router makes of the request, and however long it takes, the
charge stays as it is; and the router is asked just when the limiter admits the request.

## Main definitions

* `Edge.Treated` — what can become of a request
* `Edge.Refuses`, `Edge.Reaches` — the limiter's own answer, and that a request reaches the router
* `Edge.charges`, `Limiter.chargeAll` — what requests are charged, and a limiter after charges

## Main results

* `Edge.treated` — one of these things becomes of every request
* `Edge.Treated.refuses_iff`, `Edge.reaches_iff` — the charge alone decides which of the two it is
* `Edge.handleAll_charges` — the same along a list of requests
-/

namespace Floodgate

open Http

/-- The limiter after charges in order, each at an instant to a client. -/
def Limiter.chargeAll (l : Limiter) (charges : List (Instant × String)) : Limiter :=
  charges.foldl (fun l (now, client) => (l.charge now client).2) l

namespace Edge

/-- What requests are charged: each one but the preflights, when its turn comes, to its client. -/
def charges (requests : List (Circumstances × Request)) : List (Instant × String) :=
  (requests.filter (·.2.method ≠ "OPTIONS")).map fun (around, r) => (around.charged, r.clientKey)

/-- The answer to a request that is refused, before it is opened to other origins. -/
def refusal (requestId : String) : Response :=
  Failure.limited.response.setField "x-request-id" requestId

variable {router : Router} {limit : Span} {l l' : Limiter} {around : Circumstances} {r : Request}
  {reply : Reply}

/-- What can become of a request when it has some time: a preflight is answered, a request is
refused, or it reaches the router, which answers in time, answers too late or panics. -/
inductive Treated (router : Router) (limit : Span) (l : Limiter) (around : Circumstances)
    (r : Request) : Reply → Prop
  | preflight (asked : r.method = "OPTIONS") :
      Treated router limit l around r ⟨router.finish r preflight, l, []⟩
  | refused {tier : Tier} {l' : Limiter} (other : r.method ≠ "OPTIONS")
      (charged : l.charge around.charged r.clientKey = (.refused tier, l')) :
      Treated router limit l around r
        ⟨router.finish r (opened (refusal around.requestId)), l',
          (Verdict.refused tier).events r.clientKey ++ [refusedEvent around.requestId r] ++
            [answeredEvent around.requestId r 429]⟩
  | answered {answer : Answer} {l' : Limiter} (other : r.method ≠ "OPTIONS")
      (charged : l.charge around.charged r.clientKey = (.admitted, l'))
      (served : router.serve ⟨l', around⟩ r = .ok answer) (inTime : isLate limit answer = false) :
      Treated router limit l around r
        ⟨router.finish r (opened (answer.response.setField "x-request-id" around.requestId)), l',
          [answeredEvent around.requestId r answer.response.status]⟩
  | late {answer : Answer} {l' : Limiter} (other : r.method ≠ "OPTIONS")
      (charged : l.charge around.charged r.clientKey = (.admitted, l'))
      (served : router.serve ⟨l', around⟩ r = .ok answer) (late : isLate limit answer = true) :
      Treated router limit l around r ⟨router.finish r (opened (.bare 408)), l', []⟩
  | panicked {panic : Panic} {l' : Limiter} (other : r.method ≠ "OPTIONS")
      (charged : l.charge around.charged r.clientKey = (.admitted, l'))
      (served : router.serve ⟨l', around⟩ r = .error panic) :
      Treated router limit l around r
        ⟨router.finish r (opened (panicResponse panic)), l', [panicEvent panic]⟩

/-! ### One request -/

/-- What is there at once is never late. -/
theorem isLate_at_once (timed : limit ≠ .zero) (response : Response) :
    isLate limit ⟨response, 0⟩ = false := by
  have pos : 0 < limit.toNanos := Nat.pos_of_ne_zero (mt Span.toNanos_eq_zero_iff.1 timed)
  have wait := waited_pos pos
  rw [isLate, Nat.zero_mul, decide_eq_false_iff_not, not_le]
  exact wait

/-- What an answer says takes no time. -/
theorem isLate_mk (limit : Span) (response : Response) (answer : Answer) :
    isLate limit ⟨response, answer.millis⟩ = isLate limit answer := by
  rw [isLate, isLate]

theorem timed_of_in_time (timed : limit ≠ .zero) (l : Limiter) {answer : Answer}
    (inTime : isLate limit answer = false) (l' : Limiter) (events pending : List Event) :
    Edge.timed limit l ⟨answer, l', events, pending⟩ =
      ⟨answer.response, l', events ++ pending⟩ := by
  rw [Edge.timed, if_neg timed, inTime]
  rfl

theorem timed_of_late (timed : limit ≠ .zero) (l : Limiter) {answer : Answer}
    (late : isLate limit answer = true) (l' : Limiter) (events pending : List Event) :
    Edge.timed limit l ⟨answer, l', events, pending⟩ = ⟨.bare 408, l', events⟩ := by
  rw [Edge.timed, if_neg timed, late]
  rfl

theorem handle_of_options (router : Router) (limit : Span) (l : Limiter) (around : Circumstances)
    (asked : r.method = "OPTIONS") :
    handle router limit l around r = ⟨router.finish r preflight, l, []⟩ := by
  rw [handle, if_pos asked]

theorem limited_of_refused {tier : Tier} (router : Router) (requestId : String)
    (charged : l.charge around.charged r.clientKey = (.refused tier, l')) :
    limited router requestId l around r = ⟨.ok ⟨Failure.limited.response, 0⟩, l',
      (Verdict.refused tier).events r.clientKey ++ [refusedEvent requestId r], []⟩ := by
  unfold limited
  rw [charged]
  rfl

theorem limited_of_admitted (router : Router) (requestId : String)
    (charged : l.charge around.charged r.clientKey = (.admitted, l')) :
    limited router requestId l around r = ⟨router.serve ⟨l', around⟩ r, l', [], []⟩ := by
  unfold limited
  rw [charged]
  rfl

theorem recovered_logged_ok (requestId : String) (r : Request) (answer : Answer) (l : Limiter)
    (events : List Event) :
    recovered (logged requestId r ⟨.ok answer, l, events, []⟩) =
      ⟨⟨answer.response.setField "x-request-id" requestId, answer.millis⟩, l, events,
        [answeredEvent requestId r answer.response.status]⟩ := rfl

theorem recovered_logged_error (requestId : String) (r : Request) (panic : Panic) (l : Limiter)
    (events : List Event) :
    recovered (logged requestId r ⟨.error panic, l, events, []⟩) =
      ⟨⟨panicResponse panic, 0⟩, l, events ++ [panicEvent panic], []⟩ := rfl

theorem treated (timed : limit ≠ .zero) (router : Router) (l : Limiter) (around : Circumstances)
    (r : Request) : Treated router limit l around r (handle router limit l around r) := by
  by_cases asked : r.method = "OPTIONS"
  · rw [handle_of_options router limit l around asked]
    exact .preflight asked
  rw [handle, if_neg asked]
  dsimp only
  -- The charge comes first; only an admitted request depends on the router.
  rcases charged : l.charge around.charged r.clientKey with ⟨verdict, l'⟩
  cases verdict with
  | refused tier =>
    rw [limited_of_refused router _ charged, recovered_logged_ok,
      timed_of_in_time timed l (isLate_at_once timed _)]
    exact .refused asked charged
  | admitted =>
    rw [limited_of_admitted router _ charged]
    cases served : router.serve ⟨l', around⟩ r with
    | error panic =>
      rw [recovered_logged_error, timed_of_in_time timed l (isLate_at_once timed _)]
      exact .panicked asked charged served
    | ok answer =>
      rw [recovered_logged_ok]
      cases late : isLate limit answer with
      | false =>
        rw [timed_of_in_time timed l ((isLate_mk _ _ _).trans late)]
        exact .answered asked charged served late
      | true =>
        rw [timed_of_late timed l ((isLate_mk _ _ _).trans late)]
        exact .late asked charged served late

/-- The answer is the limiter's own: the client is told that it asks too much, and the operator
that the limiter refused the request. -/
structure Refuses (router : Router) (around : Circumstances) (r : Request) (reply : Reply) :
    Prop where
  response_eq : reply.response = router.finish r (opened (refusal around.requestId))
  status_eq : reply.response.status = 429
  told : refusedEvent around.requestId r ∈ reply.events

/-- The request reaches the router: what comes of it depends on how the router serves it. -/
def Reaches (router : Router) (limit : Span) (l : Limiter) (around : Circumstances)
    (r : Request) : Prop :=
  ∃ serve, handle { router with serve } limit l around r ≠ handle router limit l around r

namespace Treated

/-- What a request is charged does not depend on what becomes of it. -/
theorem limiter_eq (treated : Treated router limit l around r reply) :
    reply.limiter = l.chargeAll (charges [(around, r)]) := by
  cases treated with
  | preflight asked => simp [charges, asked, Limiter.chargeAll]
  | refused other charged => simp [charges, other, Limiter.chargeAll, charged]
  | answered other charged _ _ => simp [charges, other, Limiter.chargeAll, charged]
  | late other charged _ _ => simp [charges, other, Limiter.chargeAll, charged]
  | panicked other charged _ => simp [charges, other, Limiter.chargeAll, charged]

/-- A request other than a preflight is given the limiter's own answer just when its charge is
refused. -/
theorem refuses_iff (treated : Treated router limit l around r reply)
    (other : r.method ≠ "OPTIONS") :
    Refuses router around r reply ↔
      (l.charge around.charged r.clientKey).1.isAdmitted = false := by
  cases treated with
  | preflight asked => exact absurd asked other
  | refused _ charged =>
    rw [charged]
    refine iff_of_true ⟨rfl, router.status_finish r _, ?_⟩ rfl
    simp
  | answered _ charged _ _ =>
    -- A router may answer as the limiter does, but nothing is told of a refusal then.
    rw [charged]
    refine iff_of_false (fun refuses => ?_) Bool.noConfusion
    simpa [refusedEvent, answeredEvent] using refuses.told
  | late _ charged _ _ =>
    rw [charged]
    exact iff_of_false (fun refuses => List.not_mem_nil refuses.told) Bool.noConfusion
  | panicked _ charged _ =>
    rw [charged]
    refine iff_of_false (fun refuses => ?_) Bool.noConfusion
    simpa [refusedEvent, panicEvent] using refuses.told

/-- The answer to a refused request. -/
theorem eq_of_refused {tier : Tier} (treated : Treated router limit l around r reply)
    (other : r.method ≠ "OPTIONS")
    (charged : l.charge around.charged r.clientKey = (.refused tier, l')) :
    reply = ⟨router.finish r (opened (refusal around.requestId)), l',
      (Verdict.refused tier).events r.clientKey ++ [refusedEvent around.requestId r] ++
        [answeredEvent around.requestId r 429]⟩ := by
  cases treated with
  | preflight asked => exact absurd asked other
  | refused _ charged' =>
    cases charged'.symm.trans charged
    rfl
  | answered _ charged' _ _ => exact nomatch charged'.symm.trans charged
  | late _ charged' _ _ => exact nomatch charged'.symm.trans charged
  | panicked _ charged' _ => exact nomatch charged'.symm.trans charged

/-- What is told of a request that is admitted by a router that panics. -/
theorem events_of_panic {panic : Panic} (treated : Treated router limit l around r reply)
    (other : r.method ≠ "OPTIONS")
    (charged : l.charge around.charged r.clientKey = (.admitted, l'))
    (served : ∀ v, router.serve v r = .error panic) : reply.events = [panicEvent panic] := by
  cases treated with
  | preflight asked => exact absurd asked other
  | refused _ charged' => exact nomatch charged'.symm.trans charged
  | answered _ _ served' _ => exact nomatch served'.symm.trans (served _)
  | late _ _ served' _ => exact nomatch served'.symm.trans (served _)
  | panicked _ _ served' =>
    cases served'.symm.trans (served _)
    rfl

end Treated

/-- A request other than a preflight reaches the router just when its charge is admitted. -/
theorem reaches_iff (timed : limit ≠ .zero) (other : r.method ≠ "OPTIONS") :
    Reaches router limit l around r ↔
      (l.charge around.charged r.clientKey).1.isAdmitted = true := by
  rcases charged : l.charge around.charged r.clientKey with ⟨verdict, l'⟩
  cases verdict with
  | refused tier =>
    refine iff_of_false ?_ Bool.false_ne_true
    rintro ⟨serve, differs⟩
    have answer := (treated timed router l around r).eq_of_refused other charged
    have answer' := (treated timed { router with serve } l around r).eq_of_refused other charged
    exact differs (answer'.trans answer.symm)
  | admitted =>
    refine iff_of_true ?_ rfl
    by_contra reaches
    -- If nothing depended on the router, the same would be told of panics with different texts.
    have told : ∀ text, [panicEvent ⟨some text⟩] = (handle router limit l around r).events := by
      intro text
      have same := not_not.1 (not_exists.1 reaches fun _ _ => .error ⟨some text⟩)
      rw [← same]
      have panics := treated timed { router with serve := fun _ _ => .error ⟨some text⟩ } l around r
      exact (panics.events_of_panic other charged fun _ => rfl).symm
    have confused := (told "yes").trans (told "no").symm
    simp [panicEvent, panicDetail] at confused

/-! ### Many requests -/

theorem chargeAll_charges_cons (l : Limiter) (first : Circumstances × Request)
    (rest : List (Circumstances × Request)) :
    l.chargeAll (charges (first :: rest)) =
      (l.chargeAll (charges [first])).chargeAll (charges rest) := by
  have parts : charges (first :: rest) = charges [first] ++ charges rest := by
    rw [charges, ← List.singleton_append, List.filter_append, List.map_append]
    rfl
  rw [parts, Limiter.chargeAll, List.foldl_append]
  rfl

/-- Each request finds the limiter after the charges of those before it. -/
theorem handleAll_eq (timed : limit ≠ .zero) (router : Router) (l : Limiter)
    (requests : List (Circumstances × Request)) :
    (handleAll router limit l requests).1 = l.chargeAll (charges requests) ∧
      (handleAll router limit l requests).2.length = requests.length ∧
      ∀ earlier around r later, requests = earlier ++ (around, r) :: later →
        (handleAll router limit l requests).2[earlier.length]? =
          some (handle router limit (l.chargeAll (charges earlier)) around r) := by
  -- The first request leaves the limiter charged, and the others are handled from there.
  induction requests generalizing l with
  | nil =>
    refine ⟨rfl, rfl, ?_⟩
    intro earlier around r later split
    exact absurd split (by simp)
  | cons first rest ih =>
    obtain ⟨around, r⟩ := first
    have charged := (treated timed router l around r).limiter_eq
    obtain ⟨after, length, found⟩ := ih (handle router limit l around r).limiter
    rw [charged] at after length found
    rw [handleAll]
    dsimp only
    rw [charged]
    refine ⟨?_, congrArg (· + 1) length, ?_⟩
    · rw [chargeAll_charges_cons l (around, r) rest]
      exact after
    · intro earlier around' r' later split
      cases earlier with
      | nil =>
        cases split
        rfl
      | cons first earlier =>
        cases split
        rw [chargeAll_charges_cons l (around, r) earlier]
        exact found earlier around' r' later rfl

/-- When requests are handled one after the other by a router behind all layers, the limiter is
charged for each one but the preflights, once and in order, and for nothing else. A request other
than a preflight is given the limiter's own answer just when its charge is refused, and reaches
the router just when its charge is admitted. -/
theorem handleAll_charges (timed : limit ≠ .zero) (router : Router) (l : Limiter)
    (requests : List (Circumstances × Request)) :
    (handleAll router limit l requests).1 = l.chargeAll (charges requests) ∧
      (handleAll router limit l requests).2.length = requests.length ∧
      ∀ earlier around r later, requests = earlier ++ (around, r) :: later →
        let before := l.chargeAll (charges earlier)
        let reply := handle router limit before around r
        let charged := before.charge around.charged r.clientKey
        (handleAll router limit l requests).2[earlier.length]? = some reply ∧
          (r.method = "OPTIONS" →
            reply.response = router.finish r preflight ∧ reply.limiter = before) ∧
          (r.method ≠ "OPTIONS" → reply.limiter = charged.2 ∧
            (Refuses router around r reply ↔ charged.1.isAdmitted = false) ∧
            (Reaches router limit before around r ↔ charged.1.isAdmitted = true)) := by
  obtain ⟨after, length, found⟩ := handleAll_eq timed router l requests
  refine ⟨after, length, ?_⟩
  intro earlier around r later split before reply charged
  have treated := treated timed router before around r
  refine ⟨found earlier around r later split, ?_, ?_⟩
  · intro asked
    have answered : reply = _ := handle_of_options router limit before around asked
    rw [answered]
    exact ⟨rfl, rfl⟩
  · intro other
    refine ⟨?_, treated.refuses_iff other, reaches_iff timed other⟩
    rw [treated.limiter_eq, charges, List.filter_cons_of_pos (by simpa using other)]
    rfl

/-- A site with a resource that takes a minute and one that panics. -/
def hazards : Site :=
  .bare [.exact "/slow" fun _ => .ok ⟨.text "at last", 60000⟩,
    .exact "/broken" fun _ => .error ⟨none⟩]

/-- A request of a client at the base instant. -/
def asking (client method path : String) : Circumstances × Request :=
  (⟨"id", .base, .base, 0, 0⟩, ⟨method, ⟨path, ""⟩, [⟨"x-real-ip", client⟩], none⟩)

/-- The first client spends its burst on a resource that takes too long and on one that panics, and
is refused; a second one asks for an unknown path, and a third one finds the global burst spent. -/
def trouble : List (Circumstances × Request) :=
  [asking "10.0.0.1" "OPTIONS" "/slow", asking "10.0.0.1" "GET" "/slow",
    asking "10.0.0.1" "GET" "/broken", asking "10.0.0.1" "DELETE" "/slow",
    asking "10.0.0.2" "POST" "/nowhere", asking "10.0.0.3" "GET" "/slow"]

theorem trouble_charged :
    (handleAll hazards (.ofSeconds 1) (.start .modest .base) trouble).2.map (·.response.status) =
        [200, 408, 500, 429, 404, 429] ∧
      (charges trouble).map Prod.snd =
        ["10.0.0.1", "10.0.0.1", "10.0.0.1", "10.0.0.2", "10.0.0.3"] ∧
      (handleAll hazards (.ofSeconds 1) (.start .modest .base) trouble).1 =
        (Limiter.start .modest .base).chargeAll (charges trouble) ∧
      (handleAll gateway (.ofSeconds 1) (.start .modest .base) trouble).1 =
        (Limiter.start .modest .base).chargeAll (charges trouble) := by
  have timed : Span.ofSeconds 1 ≠ .zero := by decide
  have served := handleAll_charges timed hazards (.start .modest .base) trouble
  have served' := handleAll_charges timed gateway (.start .modest .base) trouble
  exact ⟨by decide +kernel, by decide +kernel, served.1, served'.1⟩

end Edge

end Floodgate
