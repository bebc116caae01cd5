import Floodgate.Proofs.Limiter.Reachable

/-!
# Eviction

While the clock does not go back, sweeps cannot be told from the decisions of a limiter. A swept
bucket was full, it would be full at every later instant, and refilled when full it is the bucket
that a client without one is given. A limiter that is swept thus shadows one that never is, bucket
by bucket, and charges both tiers alike.

## Main definitions

* `Call`, `Session.calls` — the requests of a run as they were decided
* `Session.Forward` — the clock never goes back in a run
* `Bucket.StandsFor` — what a swept limiter has for a client in place of the bucket it would have
* `Limiter.Shadows` — a swept limiter beside one that is not

## Main results

* `Limiter.Shadows.charge` — both decide a request alike
* `Session.calls_filter_sweep` — a run decides its requests as it does without its sweeps
-/

namespace Floodgate

/-! ### Calls of a run -/

/-- A request that was decided: whose it was, when and how it was decided, and the balance of the
global bucket afterwards. -/
structure Call where
  client : String
  instant : Instant
  verdict : Verdict
  globalTokens : Binary64
  deriving DecidableEq

namespace Session

/-- The call that an operation makes, if it is a request. -/
def call? (s : Session) (op : Operation) : Option Call :=
  match s.step op with
  | (s', .decided client verdict) => some ⟨client, s.now, verdict, s'.limiter.globalTokens⟩
  | _ => none

/-- The calls of a run, in order. -/
def calls (s : Session) : List Operation → List Call
  | [] => []
  | op :: ops => (s.call? op).toList ++ (s.step op).1.calls ops

/-- The clock never goes back. -/
def Forward (s : Session) : List Operation → Prop
  | [] => True
  | op :: ops => s.now.nanos.toNat ≤ (s.step op).1.now.nanos.toNat ∧ (s.step op).1.Forward ops

instance decidableForward : (s : Session) → (ops : List Operation) → Decidable (s.Forward ops)
  | _, [] => .isTrue trivial
  | s, op :: ops =>
    have := decidableForward (s.step op).1 ops
    inferInstanceAs (Decidable (_ ∧ _))

theorem call?_allow {s : Session} {client : String} {verdict : Verdict} {limiter : Limiter}
    (step : s.step (.allow client) = ({ s with limiter }, .decided client verdict)) :
    s.call? (.allow client) = some ⟨client, s.now, verdict, limiter.globalTokens⟩ := by
  rw [call?, step]

theorem call?_eq_none {s : Session} {op : Operation} (other : ∀ client, op ≠ .allow client) :
    s.call? op = none := by
  cases op with
  | allow client => exact absurd rfl (other client)
  | advance d =>
    obtain ⟨later, -, step⟩ := s.exists_step_advance d
    rw [call?, step]
  | sweep => rfl
  | stats => rfl
  | clone => rfl

theorem calls_append (s : Session) (ops ops' : List Operation) :
    s.calls (ops ++ ops') = s.calls ops ++ (s.run ops).1.calls ops' := by
  induction ops generalizing s with
  | nil => rfl
  | cons op ops ih =>
    rw [List.cons_append, calls, calls, ih, List.append_assoc]
    rfl

theorem forward_append {s : Session} {ops ops' : List Operation} :
    s.Forward (ops ++ ops') ↔ s.Forward ops ∧ (s.run ops).1.Forward ops' := by
  induction ops generalizing s with
  | nil => exact (iff_of_eq (true_and _)).symm
  | cons op ops ih =>
    rw [List.cons_append, Forward, Forward, ih, and_assoc]
    rfl

end Session

/-! ### Standing in for a full bucket -/

/-- What a limiter has for a client in place of the bucket it would have without sweeps: that very
bucket, or none where it would have one that is full. -/
inductive Bucket.StandsFor (now : Instant) : Option Bucket → Option Bucket → Prop
  | same (held : Option Bucket) : StandsFor now held held
  | full {b : Bucket} (isFull : b.isFullAt now = true) : StandsFor now none (some b)

/-- The bucket that a request is charged to, given the one that its client has. -/
def Limits.ready (limits : Limits) (now : Instant) : Option Bucket → Bucket
  | some b => b.refill now
  | none => .full limits.ipBurst limits.ipRate now

theorem Limiter.clientBucket_eq_ready (l : Limiter) (now : Instant) (client : String) :
    l.clientBucket now client = l.limits.ready now (l.clients.get? client) := rfl

namespace Bucket.StandsFor

variable {limits : Limits} {l : Limiter} {now now' : Instant} {held kept : Option Bucket}

/-- A stand-in serves a request as the kept bucket does. -/
theorem ready_eq (stands : StandsFor now held kept)
    (serves : ∀ b, kept = some b → b.Serves limits.ipBurst limits.ipRate) :
    limits.ready now held = limits.ready now kept := by
  cases stands with
  | same => rfl
  | full isFull => exact ((serves _ rfl).refill_eq_full isFull).symm

/-- A stand-in remains one as time passes. -/
theorem later (stands : StandsFor now held kept)
    (serves : ∀ b, kept = some b → b.Serves limits.ipBurst limits.ipRate)
    (le : now.nanos.toNat ≤ now'.nanos.toNat) : StandsFor now' held kept := by
  cases stands with
  | same => exact .same _
  | full isFull => exact .full ((serves _ rfl).isFullAt_mono le isFull)

/-- What a sweep leaves of a stand-in is one. -/
theorem sweep (stands : StandsFor now held kept) :
    StandsFor now (held.filter (fun b => !l.isIdle now b)) kept := by
  cases stands with
  | full isFull => exact .full isFull
  | same =>
    cases held with
    | none => exact .same none
    | some b =>
      rw [Option.filter_some]
      split_ifs with remains
      · exact .same (some b)
      · -- Only a full bucket is dropped.
        have idle : l.isIdle now b = true := by simpa using remains
        exact .full (Bool.and_eq_true _ _ ▸ idle).2

end Bucket.StandsFor

/-! ### Shadowing a limiter that is never swept -/

/-- `l` shadows `m`: the limits and the global bucket are the same, and what `l` has for a client
stands in for what `m` has. -/
structure Limiter.Shadows (now : Instant) (l m : Limiter) : Prop where
  limits_eq : l.limits = m.limits
  global_eq : l.global = m.global
  clients : ∀ client, Bucket.StandsFor now (l.clients.get? client) (m.clients.get? client)

namespace Limiter.Shadows

variable {l m : Limiter} {now now' : Instant}

theorem refl (now : Instant) (l : Limiter) : l.Shadows now l := ⟨rfl, rfl, fun _ => .same _⟩

theorem clientBucket_eq (shadows : Shadows now l m) (sound : m.Sound) (client : String) :
    l.clientBucket now client = m.clientBucket now client := by
  rw [clientBucket_eq_ready, clientBucket_eq_ready, shadows.limits_eq]
  exact (shadows.clients client).ready_eq (sound.clients client)

theorem set (shadows : Shadows now l m) (global b : Bucket) (client : String) :
    Shadows now { l with global, clients := l.clients.set client b }
      { m with global, clients := m.clients.set client b } := by
  refine ⟨shadows.limits_eq, rfl, ?_⟩
  intro other
  rw [Clients.get?_set, Clients.get?_set]
  split_ifs
  · exact .same _
  · exact shadows.clients other

/-- Both limiters decide a request alike, and the one still shadows the other. -/
theorem charge (shadows : Shadows now l m) (sound : m.Sound) (client : String) :
    (l.charge now client).1 = (m.charge now client).1 ∧
      Shadows now (l.charge now client).2 (m.charge now client).2 := by
  -- Both decisions read the same two buckets.
  rw [Limiter.charge, Limiter.charge, shadows.global_eq, shadows.clientBucket_eq sound]
  dsimp only
  cases (m.global.refill now).take? with
  | none => exact ⟨rfl, shadows.limits_eq, rfl, shadows.clients⟩
  | some global =>
    dsimp only
    cases (m.clientBucket now client).take? with
    | none => exact ⟨rfl, shadows.set global _ client⟩
    | some b => exact ⟨rfl, shadows.set global b client⟩

theorem sweep (shadows : Shadows now l m) : Shadows now (l.sweep now).2 m := by
  refine ⟨shadows.limits_eq, shadows.global_eq, ?_⟩
  intro client
  rw [get?_sweep]
  exact (shadows.clients client).sweep

theorem later (shadows : Shadows now l m) (sound : m.Sound)
    (le : now.nanos.toNat ≤ now'.nanos.toNat) : Shadows now' l m := by
  refine ⟨shadows.limits_eq, shadows.global_eq, ?_⟩
  intro client
  exact (shadows.clients client).later (sound.clients client) le

end Limiter.Shadows

namespace Session

/-- A limiter makes the calls of one that it shadows and that is never swept. -/
theorem calls_eq_of_shadows {l m : Limiter} {now : Instant} (shadows : l.Shadows now m)
    (sound : m.Sound) {ops : List Operation} (forward : Forward ⟨l, now⟩ ops) :
    calls ⟨m, now⟩ (ops.filter (· ≠ .sweep)) = calls ⟨l, now⟩ ops := by
  -- Each operation keeps the one limiter a shadow of the other; a sweep moves only the shadow.
  induction ops generalizing l m now with
  | nil => rfl
  | cons op ops ih =>
    obtain ⟨le, forward⟩ := forward
    cases op with
    | allow client =>
      obtain ⟨verdict_eq, shadows'⟩ := shadows.charge sound client
      rw [step_allow] at forward
      have rest := ih shadows' (sound.charged (m.charged now client)) forward
      rw [List.filter_cons_of_pos (by simp), calls, calls, call?_allow (step_allow _ _),
        call?_allow (step_allow _ _), step_allow, step_allow, rest, verdict_eq,
        Limiter.globalTokens, Limiter.globalTokens, shadows'.global_eq]
    | advance d =>
      obtain ⟨later, moved, step⟩ := exists_step_advance ⟨l, now⟩ d
      obtain ⟨later', moved', step'⟩ := exists_step_advance ⟨m, now⟩ d
      obtain rfl : later = later' := moved.trans moved'.symm
      rw [step] at le forward
      rw [List.filter_cons_of_pos (by simp), calls, calls, call?, call?, step, step']
      exact ih (shadows.later sound le) sound forward
    | sweep =>
      rw [List.filter_cons_of_neg (by simp)]
      exact ih shadows.sweep sound forward
    | stats =>
      rw [List.filter_cons_of_pos (by simp)]
      exact ih shadows sound forward
    | clone =>
      rw [List.filter_cons_of_pos (by simp)]
      exact ih shadows sound forward

/-- Deleting the sweeps from a run whose clock never goes back leaves every request decided as it
was, by the same tier and with the same global balance afterwards. -/
theorem calls_filter_sweep {limits : Limits} {limiter : Limiter} {now : Instant}
    (made : Limiter.new limits now = .ok limiter) {ops : List Operation}
    (forward : Forward ⟨limiter, now⟩ ops) :
    calls ⟨limiter, now⟩ (ops.filter (· ≠ .sweep)) = calls ⟨limiter, now⟩ ops := by
  obtain ⟨meaningful, rfl⟩ := Limiter.new_eq_ok_iff.1 made
  exact calls_eq_of_shadows (.refl now _) (Limiter.sound_start meaningful now) forward

/-- A client spends its burst, is swept once its bucket is full again, and comes back. -/
def visits : List Operation :=
  [.allow "a", .allow "a", .advance (.ofSeconds 3), .sweep, .allow "a", .allow "a", .allow "a"]

theorem calls_visits :
    Outcome.swept 1 ∈ (run ⟨.start .modest .base, .base⟩ visits).2 ∧
      Forward ⟨.start .modest .base, .base⟩ visits ∧
      calls ⟨.start .modest .base, .base⟩ (visits.filter (· ≠ .sweep)) =
        calls ⟨.start .modest .base, .base⟩ visits := by
  have forward : Forward ⟨.start .modest .base, .base⟩ visits := by decide +kernel
  refine ⟨by decide +kernel, forward, ?_⟩
  exact calls_filter_sweep (Limiter.new_modest .base) forward

end Session

end Floodgate
