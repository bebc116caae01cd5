import Floodgate.Proofs.Limiter.History

/-!
# The global tier

The global tier does not know clients. It answers each request as one bucket would that is asked
for a token at the instant of every request and is otherwise left alone: whoever asks, whatever
the client tier says of it afterwards, and whatever is swept or read in between. Two limiters with
the same global rate and burst that are asked at the same instants therefore refuse the same
requests globally, also when their clients, their other limits or their sweeps differ and when the
clock goes back.

## Main definitions

* `Bucket.asked`, `Bucket.answers` — a bucket that is asked for a token at given instants
* `Call.globalAnswer` — what the global tier says of a request

## Main results

* `Session.Leads.globalAnswers_eq` — the global tier answers as its bucket alone would
* `Session.global_tier_blind` — equal instants have equal global answers in any two runs
-/

namespace Floodgate

/-! ### A bucket that is asked for tokens -/

namespace Bucket

/-- The bucket after it is asked for a token at an instant, which it gives if it has one. -/
def asked (b : Bucket) (now : Instant) : Bucket := (b.refill now).take?.getD (b.refill now)

theorem asked_eq_of_take? {b b' : Bucket} {now : Instant}
    (taken : (b.refill now).take? = some b') : b.asked now = b' := by
  rw [asked, taken, Option.getD_some]

theorem asked_eq_refill {b : Bucket} {now : Instant} (exhausted : (b.refill now).take? = none) :
    b.asked now = b.refill now := by
  rw [asked, exhausted, Option.getD_none]

theorem lastRefill_asked (b : Bucket) (now : Instant) : (b.asked now).lastRefill = now := by
  cases taken : (b.refill now).take? with
  | none => rw [asked_eq_refill taken, lastRefill_refill]
  | some b' => rw [asked_eq_of_take? taken, lastRefill_take taken, lastRefill_refill]

/-- A bucket that is asked at several instants was last refilled at the last one. -/
theorem lastRefill_foldl_asked (b : Bucket) (instants : List Instant) :
    (instants.foldl asked b).lastRefill = instants.getLast?.getD b.lastRefill := by
  induction instants generalizing b with
  | nil => rfl
  | cons now instants ih =>
    rw [List.foldl_cons, ih, lastRefill_asked, List.getLast?_cons, Option.getD_some]

/-- What a bucket answers that is asked for a token at each of the given instants: whether it has
none to give, and what it holds afterwards. -/
def answers (b : Bucket) : List Instant → List (Bool × Binary64)
  | [] => []
  | now :: instants =>
    ((b.refill now).take?.isNone, (b.asked now).tokens) :: (b.asked now).answers instants

end Bucket

/-- What the global tier says of a request: whether it refuses it, and the global balance
afterwards. -/
def Call.globalAnswer (k : Call) : Bool × Binary64 :=
  (decide (k.verdict = .refused .global), k.globalTokens)

namespace Limiter.Charged

variable {l l' : Limiter} {now : Instant} {client : String} {verdict : Verdict}

/-- Whatever becomes of a request, the global bucket has been asked once. -/
theorem global_eq (charged : l.Charged now client verdict l') :
    l'.global = l.global.asked now := by
  cases charged with
  | globalRefused exhausted => exact (Bucket.asked_eq_refill exhausted).symm
  | clientRefused passed _ => exact (Bucket.asked_eq_of_take? passed).symm
  | admitted passed _ => exact (Bucket.asked_eq_of_take? passed).symm

/-- A request is refused globally exactly when the global bucket has no token to give. -/
theorem refused_global_iff (charged : l.Charged now client verdict l') :
    verdict = .refused .global ↔ (l.global.refill now).take?.isNone = true := by
  cases charged with
  | globalRefused exhausted => simp [exhausted]
  | clientRefused passed _ => simp [passed]
  | admitted passed _ => simp [passed]

end Limiter.Charged

namespace Session

/-- Along a history the global bucket is asked at the instants of the requests and left alone
otherwise. -/
theorem Leads.globalAnswers_eq {may : Instant → Instant → Prop} {s s' : Session}
    {calls : List Call} (leads : s.Leads may calls s') :
    calls.map Call.globalAnswer = s.limiter.global.answers (calls.map Call.instant) ∧
      s'.limiter.global = (calls.map Call.instant).foldl Bucket.asked s.limiter.global := by
  induction leads with
  | done => exact ⟨rfl, rfl⟩
  | request charged _ ih =>
    obtain ⟨answers, global⟩ := ih
    have asked := charged.global_eq
    have refused := charged.refused_global_iff
    rw [List.map_cons, List.map_cons, List.foldl_cons, Bucket.answers, answers, ← asked]
    refine ⟨?_, global⟩
    rw [Call.globalAnswer, Limiter.globalTokens]
    simp only [refused, Bool.decide_eq_true]
  | move _ _ ih => exact ih
  | sweep _ ih => exact ih

/-- The global bucket was last refilled for the last request. -/
theorem Leads.global_lastRefill {may : Instant → Instant → Prop} {s s' : Session}
    {calls : List Call} (leads : s.Leads may calls s') :
    s'.limiter.global.lastRefill =
      (calls.map Call.instant).getLast?.getD s.limiter.global.lastRefill := by
  rw [leads.globalAnswers_eq.2, Bucket.lastRefill_foldl_asked]

/-- In any two runs of limits with the same global rate and burst whose requests are made at the
same instants, the same requests are refused globally and the global balances after them are the
same; so is the global bucket that is left in the end. -/
theorem global_tier_blind {limits limits' : Limits} {limiter limiter' : Limiter} {now : Instant}
    (made : Limiter.new limits now = .ok limiter) (made' : Limiter.new limits' now = .ok limiter')
    (rate_eq : limits.globalRate = limits'.globalRate)
    (burst_eq : limits.globalBurst = limits'.globalBurst)
    {ops ops' : List Operation}
    (same : (calls ⟨limiter, now⟩ ops).map Call.instant =
      (calls ⟨limiter', now⟩ ops').map Call.instant) :
    (calls ⟨limiter, now⟩ ops).map Call.globalAnswer =
        (calls ⟨limiter', now⟩ ops').map Call.globalAnswer ∧
      (run ⟨limiter, now⟩ ops).1.limiter.global = (run ⟨limiter', now⟩ ops').1.limiter.global := by
  obtain ⟨-, rfl⟩ := Limiter.new_eq_ok_iff.1 made
  obtain ⟨-, rfl⟩ := Limiter.new_eq_ok_iff.1 made'
  have begun : (Limiter.start limits now).global = (Limiter.start limits' now).global := by
    rw [Limiter.start, Limiter.start, rate_eq, burst_eq]
  obtain ⟨answers, global⟩ := (leads_run ⟨.start limits now, now⟩ ops).globalAnswers_eq
  obtain ⟨answers', global'⟩ := (leads_run ⟨.start limits' now, now⟩ ops').globalAnswers_eq
  constructor
  · rw [answers, answers', same, begun]
  · rw [global, global', same, begun]

end Session

/-- The global limits of `Limits.modest`, with a single token for each client that hardly ever
comes back. -/
def Limits.miserly : Limits :=
  { Limits.modest with ipRate := .finite false 2 (by decide), ipBurst := 1 }

theorem Limiter.new_miserly (now : Instant) :
    Limiter.new .miserly now = .ok (.start .miserly now) :=
  new_eq_ok_iff.2 ⟨by constructor <;> decide, rfl⟩

namespace Session

/-- One client asks five times, the last two times after the clock went back. -/
def insistence : List Operation :=
  [.allow "a", .allow "a", .allow "a", .advance .longest, .allow "a", .allow "a"]

/-- Others ask at the same instants, with sweeps and snapshots in between. -/
def bustle : List Operation :=
  [.sweep, .allow "b", .allow "c", .stats, .allow "b", .advance .longest, .sweep, .allow "d",
    .clone, .allow "e"]

theorem bustle_blind :
    (calls ⟨.start .modest ⟨5⟩, ⟨5⟩⟩ insistence).map Call.verdict =
        [.admitted, .admitted, .refused .client, .refused .client, .refused .global] ∧
      (calls ⟨.start .modest ⟨5⟩, ⟨5⟩⟩ insistence).map Call.instant =
        (calls ⟨.start .miserly ⟨5⟩, ⟨5⟩⟩ bustle).map Call.instant ∧
      (calls ⟨.start .modest ⟨5⟩, ⟨5⟩⟩ insistence).map Call.globalAnswer =
        (calls ⟨.start .miserly ⟨5⟩, ⟨5⟩⟩ bustle).map Call.globalAnswer ∧
      (run ⟨.start .modest ⟨5⟩, ⟨5⟩⟩ insistence).1.limiter.global =
        (run ⟨.start .miserly ⟨5⟩, ⟨5⟩⟩ bustle).1.limiter.global := by
  have same : (calls ⟨.start .modest ⟨5⟩, ⟨5⟩⟩ insistence).map Call.instant =
      (calls ⟨.start .miserly ⟨5⟩, ⟨5⟩⟩ bustle).map Call.instant := by decide +kernel
  refine ⟨by decide +kernel, same, ?_⟩
  exact global_tier_blind (Limiter.new_modest ⟨5⟩) (Limiter.new_miserly ⟨5⟩) rfl rfl same

end Session

end Floodgate
