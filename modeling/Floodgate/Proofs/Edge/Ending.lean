import Floodgate.Proofs.Edge.Answers

/-!
# How requests end

Behind all layers a request ends in one of six ways, of which the first that applies counts: it is a
preflight, it has no time at all, its charge is refused, or the router panics, takes too long or
answers. How a request ends decides what its answer is, what is told of it and whether it is
charged.

## Main definitions

* `Ending` — how a request ends
* `Ending.response`, `Ending.limiter`, `Ending.events` — what comes of a request that ends so
* `Edge.ending` — the first of the endings that applies
* `Edge.Follows` — a request is handled as an ending has it

## Main results

* `Edge.isLate_iff` — when a router takes too long
* `Edge.handle_follows` — a request is handled as its ending has it
* `Edge.ending_of_not_isReached` — what has not reached the router does not depend on it
-/

namespace Floodgate

open Http

/-- How a request ends. -/
inductive Ending where
  | preflight
  /-- There is no time at all. -/
  | untimed
  | refused (tier : Tier)
  | panicked (panic : Panic)
  /-- The router takes as long as the request may take, or longer. -/
  | late
  | answered (response : Response)
  deriving DecidableEq

namespace Ending

/-- The answer to a request that ends so, before the router has the last word on it. -/
def response (requestId : String) : Ending → Response
  | preflight => Edge.preflight
  | untimed | late => Edge.opened (.bare 408)
  | refused _ => Edge.opened (Edge.refusal requestId)
  | panicked panic => Edge.opened (Edge.panicResponse panic)
  | answered response => Edge.opened (response.setField "x-request-id" requestId)

/-- What is told of a request that ends so. -/
def events (requestId : String) (r : Request) : Ending → List Event
  | preflight | untimed | late => []
  | refused tier =>
    (Verdict.refused tier).events r.clientKey ++ [Edge.refusedEvent requestId r] ++
      [Edge.answeredEvent requestId r 429]
  | panicked panic => [Edge.panicEvent panic]
  | answered response => [Edge.answeredEvent requestId r response.status]

/-- A request that ends so is charged. -/
def isCharged : Ending → Bool
  | preflight | untimed => false
  | refused _ | panicked _ | late | answered _ => true

/-- A request that ends so reaches the router. -/
def isReached : Ending → Bool
  | preflight | untimed | refused _ => false
  | panicked _ | late | answered _ => true

/-- The status of the answer. -/
def status : Ending → UInt16
  | preflight => 200
  | untimed | late => 408
  | refused _ => 429
  | panicked _ => 500
  | answered response => response.status

/-- The body of the answer. -/
def body : Ending → String
  | preflight | untimed | late => ""
  | refused _ => (ErrorBody.json ⟨429, "Rate limit exceeded", none⟩).render
  | panicked panic =>
    let detail := "panic: " ++ panic.text.getD "unknown panic"
    (ErrorBody.json ⟨500, "Internal server error", some detail⟩).render
  | answered response => response.body

theorem status_response (ending : Ending) (requestId : String) :
    (ending.response requestId).status = ending.status := by
  cases ending <;> rfl

theorem body_response (ending : Ending) (requestId : String) :
    (ending.response requestId).body = ending.body := by
  cases ending <;> rfl

/-- The limiter after a request that ends so. -/
def limiter (ending : Ending) (l : Limiter) (around : Circumstances) (r : Request) : Limiter :=
  if ending.isCharged then (l.charge around.charged r.clientKey).2 else l

theorem limiter_of_isCharged {ending : Ending} {l l' : Limiter} {around : Circumstances}
    {r : Request} {verdict : Verdict} (isCharged : ending.isCharged = true)
    (charged : l.charge around.charged r.clientKey = (verdict, l')) :
    ending.limiter l around r = l' := by
  rw [limiter, if_pos isCharged, charged]

end Ending

namespace Edge

variable {router : Router} {limit : Span} {l l' : Limiter} {around : Circumstances} {r : Request}
  {reply : Reply}

/-- How a request ends that has reached the router. -/
def reached (limit : Span) : Served → Ending
  | .error panic => .panicked panic
  | .ok answer => if isLate limit answer then .late else .answered answer.response

theorem isReached_reached (limit : Span) (served : Served) :
    (reached limit served).isReached = true := by
  unfold reached
  split
  · rfl
  · split <;> rfl

/-- How a request ends: the first of the endings that applies. -/
def ending (router : Router) (limit : Span) (l : Limiter) (around : Circumstances) (r : Request) :
    Ending :=
  if r.method = "OPTIONS" then .preflight
  else if limit = .zero then .untimed
  else
    match l.charge around.charged r.clientKey with
    | (.refused tier, _) => .refused tier
    | (.admitted, l') => reached limit (router.serve ⟨l', around⟩ r)

/-- An answer is late when it takes as long as it may, or when a timer waits for neither to end. -/
theorem isLate_iff (limit : Span) (answer : Answer) :
    isLate limit answer = true ↔ limit.toNanos ≤ answer.millis * nanosPerMilli ∨
      longestWait ≤ limit.toNanos ∧ longestWait ≤ answer.millis * nanosPerMilli := by
  rw [isLate, decide_eq_true_eq, waited, waited]
  omega

/-! ### When an ending applies -/

theorem ending_of_options (router : Router) (limit : Span) (l : Limiter) (around : Circumstances)
    (asked : r.method = "OPTIONS") : ending router limit l around r = .preflight := by
  rw [ending, if_pos asked]

theorem ending_of_zero (router : Router) (l : Limiter) (around : Circumstances)
    (other : r.method ≠ "OPTIONS") : ending router .zero l around r = .untimed := by
  rw [ending, if_neg other, if_pos rfl]

theorem ending_of_refused {tier : Tier} (router : Router) (timed : limit ≠ .zero)
    (other : r.method ≠ "OPTIONS")
    (charged : l.charge around.charged r.clientKey = (.refused tier, l')) :
    ending router limit l around r = .refused tier := by
  rw [ending, if_neg other, if_neg timed, charged]

theorem ending_of_admitted (router : Router) (timed : limit ≠ .zero) (other : r.method ≠ "OPTIONS")
    (charged : l.charge around.charged r.clientKey = (.admitted, l')) :
    ending router limit l around r = reached limit (router.serve ⟨l', around⟩ r) := by
  rw [ending, if_neg other, if_neg timed, charged]

/-- A request that does not reach the router ends the same whatever the router does. -/
theorem ending_of_not_isReached {router' : Router}
    (unreached : (ending router limit l around r).isReached = false) :
    ending router' limit l around r = ending router limit l around r := by
  by_cases asked : r.method = "OPTIONS"
  · rw [ending_of_options router' limit l around asked,
      ending_of_options router limit l around asked]
  by_cases timed : limit = .zero
  · rw [timed, ending_of_zero router' l around asked, ending_of_zero router l around asked]
  rcases charged : l.charge around.charged r.clientKey with ⟨verdict, l'⟩
  cases verdict with
  | refused tier =>
    rw [ending_of_refused router' timed asked charged, ending_of_refused router timed asked charged]
  | admitted =>
    rw [ending_of_admitted router timed asked charged, isReached_reached] at unreached
    exact absurd unreached Bool.true_eq_false.mp

/-- The router decides an ending by how it serves the request in its circumstances. -/
theorem ending_congr {router' : Router}
    (same : ∀ l', router'.serve ⟨l', around⟩ r = router.serve ⟨l', around⟩ r) :
    ending router' limit l around r = ending router limit l around r := by
  simp only [ending, same]

/-! ### What an ending decides -/

/-- A request is handled as its ending has it. -/
structure Follows (router : Router) (l : Limiter) (around : Circumstances) (r : Request)
    (ending : Ending) (reply : Reply) : Prop where
  response_eq : reply.response = router.finish r (ending.response around.requestId)
  limiter_eq : reply.limiter = ending.limiter l around r
  events_eq : reply.events = ending.events around.requestId r

theorem handle_of_zero (router : Router) (l : Limiter) (around : Circumstances)
    (other : r.method ≠ "OPTIONS") :
    handle router .zero l around r = ⟨router.finish r (opened (.bare 408)), l, []⟩ := by
  rw [handle, if_neg other]
  dsimp only
  rw [timed, if_pos rfl]

theorem Treated.follows (treated : Treated router limit l around r reply) (timed : limit ≠ .zero) :
    Follows router l around r (ending router limit l around r) reply := by
  cases treated with
  | preflight asked =>
    rw [ending_of_options router limit l around asked]
    exact ⟨rfl, rfl, rfl⟩
  | refused other charged =>
    rw [ending_of_refused router timed other charged]
    exact ⟨rfl, (Ending.limiter_of_isCharged rfl charged).symm, rfl⟩
  | answered other charged served inTime =>
    rw [ending_of_admitted router timed other charged, served, reached, inTime,
      if_neg Bool.false_ne_true]
    exact ⟨rfl, (Ending.limiter_of_isCharged rfl charged).symm, rfl⟩
  | late other charged served late =>
    rw [ending_of_admitted router timed other charged, served, reached, late, if_pos rfl]
    exact ⟨rfl, (Ending.limiter_of_isCharged rfl charged).symm, rfl⟩
  | panicked other charged served =>
    rw [ending_of_admitted router timed other charged, served, reached]
    exact ⟨rfl, (Ending.limiter_of_isCharged rfl charged).symm, rfl⟩

theorem handle_follows (router : Router) (limit : Span) (l : Limiter) (around : Circumstances)
    (r : Request) :
    Follows router l around r (ending router limit l around r)
      (handle router limit l around r) := by
  by_cases timed : limit = .zero
  · by_cases asked : r.method = "OPTIONS"
    · rw [ending_of_options router limit l around asked,
        handle_of_options router limit l around asked]
      exact ⟨rfl, rfl, rfl⟩
    · rw [timed, ending_of_zero router l around asked, handle_of_zero router l around asked]
      exact ⟨rfl, rfl, rfl⟩
  · exact (treated timed router l around r).follows timed

/-- What comes of a request depends on its ending and on what is done to its answer in the end. -/
theorem Follows.eq {reply' : Reply} {router' : Router} {ending : Ending}
    (follows : Follows router l around r ending reply)
    (follows' : Follows router' l around r ending reply')
    (finish : router'.finish = router.finish) : reply' = reply := by
  obtain ⟨response, limiter, events⟩ := reply
  obtain ⟨response', limiter', events'⟩ := reply'
  obtain ⟨rfl, rfl, rfl⟩ := follows
  obtain ⟨rfl, rfl, rfl⟩ := follows'
  rw [finish]

end Edge

end Floodgate
