import Floodgate.Proofs.Bucket.Level
import Floodgate.Proofs.Limiter.Reachable

/-!
# The rate ceiling

Over any stretch of a session no client is admitted more often, and the global tier passed no more
often, than the burst and the rate allow for the time that was let pass, but for the roundings of
the requests. Each tier has a reserve that pays for what it lets through: time fills it up at the
rate, a request may add the slack of one rounding, and it never exceeds the burst.

A swept client costs nothing: its bucket lacked the slack at most, and the request that makes it
anew brings that slack.

## Main definitions

* `elapsed`, `requests` — the time that operations let pass and the requests among them
* `Limiter.clientReserve` — what a client's bucket can still pay for

## Main results

* `Session.run_budget` — a reserve that pays for each step pays for a run
* `Session.Reachable.passes_within_rate` — the ceiling of both tiers
-/

namespace Floodgate

open Binary64 Bucket

/-! ### Time and requests of a stretch -/

/-- The seconds that an operation lets pass, exactly. -/
def Operation.seconds : Operation → ℚ
  | .advance d => d.toNanos / nanosPerSecond
  | _ => 0

/-- The operation is a request. -/
def Operation.isRequest : Operation → Bool
  | .allow _ => true
  | _ => false

/-- The outcome tells of a request that the global tier let pass. -/
def Outcome.passedGlobal : Outcome → Bool
  | .decided _ verdict => verdict.passedGlobal
  | _ => false

/-- The seconds that operations let pass, exactly. -/
def elapsed (ops : List Operation) : ℚ := (ops.map Operation.seconds).sum

/-- How many of the operations are requests. -/
def requests (ops : List Operation) : ℕ := ops.countP Operation.isRequest

/-- What an operation adds to a reserve: time adds at the rate, a request adds `extra`. -/
def Operation.income (rate extra : ℚ) : Operation → ℚ
  | .allow _ => extra
  | .advance d => rate * (d.toNanos / nanosPerSecond)
  | _ => 0

theorem Operation.income_eq (rate extra : ℚ) (op : Operation) :
    op.income rate extra = rate * op.seconds + (if op.isRequest then 1 else 0) * extra := by
  cases op <;> simp [income, seconds, isRequest]

theorem sum_income (rate extra : ℚ) (ops : List Operation) :
    (ops.map (Operation.income rate extra)).sum = rate * elapsed ops + requests ops * extra := by
  induction ops with
  | nil => simp [elapsed, requests]
  | cons op ops ih =>
    have time : elapsed (op :: ops) = op.seconds + elapsed ops := List.sum_cons
    have number : (requests (op :: ops) : ℚ) = requests ops + if op.isRequest then 1 else 0 := by
      rw [requests, List.countP_cons]
      push_cast
      rfl
    rw [List.map_cons, List.sum_cons, ih, time, number, Operation.income_eq]
    ring

/-- A reserve that pays for each step out of the step's income pays for a run. -/
theorem Session.run_budget (hit : Outcome → Bool) (reserve : Session → ℚ) {limits : Limits}
    {rate extra : ℚ}
    (pays : ∀ s : Session, s.limiter.Sound → s.limiter.limits = limits → ∀ op,
      (if hit (s.step op).2 then 1 else 0) + reserve (s.step op).1 ≤
        reserve s + op.income rate extra)
    {s : Session} (sound : s.limiter.Sound) (same : s.limiter.limits = limits)
    (ops : List Operation) :
    ((s.run ops).2.countP hit : ℚ) + reserve (s.run ops).1 ≤
      reserve s + (rate * elapsed ops + requests ops * extra) := by
  rw [← sum_income]
  -- The budget of the first operation and that of the others, which begin with the reserve that
  -- it leaves, add up.
  induction ops generalizing s with
  | nil => simp [run]
  | cons op ops ih =>
    have first := pays s sound same op
    have rest := ih (sound_step sound op) ((limits_step s op).trans same)
    have hits : ((s.run (op :: ops)).2.countP hit : ℚ) =
        ((s.step op).1.run ops).2.countP hit + if hit (s.step op).2 then 1 else 0 := by
      rw [run, List.countP_cons]
      push_cast
      rfl
    rw [hits, List.map_cons, List.sum_cons]
    change _ + reserve ((s.step op).1.run ops).1 ≤ _
    linarith

namespace Limiter

variable {l l' : Limiter} {now : Instant} {client : String} {verdict : Verdict}

/-! ### The global tier -/

/-- The global level pays for every request that the global tier lets pass. -/
theorem Sound.global_pays (sound : l.Sound) (charged : l.Charged now client verdict l') :
    (if verdict.passedGlobal then 1 else 0) + l'.global.level now ≤
      l.global.level now + slack l.limits.globalBurst := by
  have refilled := sound.global.refill now
  have level := sound.global.level_refill_le now
  -- The token is spent whatever the client tier says.
  have paid : ∀ global, (l.global.refill now).take? = some global →
      1 + global.level now ≤ l.global.level now + slack l.limits.globalBurst := by
    intro global passed
    rw [add_comm, refilled.level_take (lastRefill_refill _ _) passed]
    exact level
  cases charged with
  | globalRefused _ => simpa [Verdict.passedGlobal] using level
  | clientRefused passed _ => simpa [Verdict.passedGlobal] using paid _ passed
  | admitted passed _ => simpa [Verdict.passedGlobal] using paid _ passed

/-! ### The client tier -/

/-- What a client's bucket can still pay for. A bucket yet to be made is missing the slack, which
the request that makes it brings. -/
def clientReserve (l : Limiter) (now : Instant) (client : String) : ℚ :=
  match l.clients.get? client with
  | some b => b.level now
  | none => l.limits.ipBurst.toNat - slack l.limits.ipBurst

theorem Sound.clientReserve_nonneg (sound : l.Sound) (now : Instant) (client : String) :
    0 ≤ l.clientReserve now client := by
  rw [clientReserve]
  cases tracked : l.clients.get? client with
  | none => exact sub_nonneg.2 (slack_le _)
  | some b => exact (sound.clients client b tracked).level_nonneg now

theorem Sound.clientReserve_le (sound : l.Sound) (now : Instant) (client : String) :
    l.clientReserve now client ≤ l.limits.ipBurst.toNat := by
  rw [clientReserve]
  cases tracked : l.clients.get? client with
  | none => exact sub_le_self _ (slack_nonneg _)
  | some b => exact (sound.clients client b tracked).level_le now

theorem clientReserve_set (l : Limiter) (global b : Bucket) (now : Instant)
    (client other : String) :
    clientReserve { l with global, clients := l.clients.set client b } now other =
      if other = client then b.level now else l.clientReserve now other := by
  rw [clientReserve, Clients.get?_set]
  split_ifs with same
  · rfl
  · rfl

/-- The bucket that a request finds holds the reserve and the slack at most. -/
theorem Sound.level_clientBucket_le (sound : l.Sound) (now : Instant) (client : String) :
    (l.clientBucket now client).level now ≤
      l.clientReserve now client + slack l.limits.ipBurst := by
  have full := (sound.clientBucket now client).level_le now
  rw [clientReserve]
  cases tracked : l.clients.get? client with
  | none => exact full.trans_eq (sub_add_cancel _ _).symm
  | some b =>
    rw [Limiter.clientBucket, tracked]
    exact (sound.clients client b tracked).level_refill_le now

/-- A client's reserve pays for every request of the client that is admitted. -/
theorem Sound.client_pays (sound : l.Sound) (charged : l.Charged now client verdict l')
    (other : String) :
    (if client = other ∧ verdict = .admitted then 1 else 0) + l'.clientReserve now other ≤
      l.clientReserve now other + slack l.limits.ipBurst := by
  have slack_nonneg := slack_nonneg l.limits.ipBurst
  have found := sound.level_clientBucket_le now client
  have refilled := l.lastRefill_clientBucket now client
  have serves := sound.clientBucket now client
  cases charged with
  | globalRefused _ =>
    -- The client tier is not asked.
    rw [if_neg (fun both => nomatch both.2), zero_add]
    exact le_add_of_nonneg_right slack_nonneg
  | clientRefused _ _ =>
    rw [if_neg (fun both => nomatch both.2), zero_add, clientReserve_set]
    split_ifs with same
    · exact same ▸ found
    · exact le_add_of_nonneg_right slack_nonneg
  | admitted _ taken =>
    rw [clientReserve_set]
    by_cases same : other = client
    · subst same
      rw [if_pos ⟨rfl, rfl⟩, if_pos rfl, add_comm, serves.level_take refilled taken]
      exact found
    · rw [if_neg (fun both => same both.1.symm), if_neg same, zero_add]
      exact le_add_of_nonneg_right slack_nonneg

/-- A sweep adds nothing to a client's reserve. -/
theorem Sound.clientReserve_sweep_le (sound : l.Sound) (now : Instant) (client : String) :
    (l.sweep now).2.clientReserve now client ≤ l.clientReserve now client := by
  rw [clientReserve, clientReserve, get?_sweep]
  cases tracked : l.clients.get? client with
  | none => exact le_rfl
  | some b =>
    rw [Option.filter_some]
    split_ifs with kept
    · exact le_rfl
    · -- Only a full bucket is dropped.
      have idle : l.isIdle now b = true := by simpa using kept
      have isFull := (Bool.and_eq_true _ _ ▸ idle).2
      have level := (sound.clients client b tracked).capacity_le_level_of_isFullAt isFull
      exact sub_le_iff_le_add.2 level

/-- A client's reserve grows with the time by what the rate gives. -/
theorem Sound.clientReserve_advance_le (sound : l.Sound) (now : Instant) (client : String)
    (d : Span) :
    l.clientReserve (now.advance d) client ≤
      l.clientReserve now client +
        l.limits.ipRate.toRat * (d.toNanos / nanosPerSecond) := by
  rw [clientReserve, clientReserve]
  cases tracked : l.clients.get? client with
  | none =>
    have rate := (sound.clientBucket now client).toRat_rate_nonneg
    rw [(sound.clientBucket now client).rate_eq] at rate
    exact le_add_of_nonneg_right
      (mul_nonneg rate (div_nonneg (Nat.cast_nonneg _) (Nat.cast_nonneg _)))
  | some b => exact (sound.clients client b tracked).level_advance_le now d

end Limiter

namespace Session

variable {limits : Limits} {s : Session}

theorem global_pays (sound : s.limiter.Sound) (op : Operation) :
    (if (s.step op).2.passedGlobal then 1 else 0) +
        (s.step op).1.limiter.global.level (s.step op).1.now ≤
      s.limiter.global.level s.now +
        op.income s.limiter.limits.globalRate.toRat (slack s.limiter.limits.globalBurst) := by
  cases op with
  | allow client =>
    obtain ⟨verdict, limiter, step, charged⟩ := s.exists_step_allow client
    rw [step]
    exact sound.global_pays charged
  | advance d =>
    obtain ⟨later, moved, step⟩ := s.exists_step_advance d
    rw [step]
    have risen := sound.global.level_advance_le s.now d
    rw [← moved] at risen
    exact (zero_add _).trans_le risen
  | sweep => exact (zero_add _).trans_le (add_zero _).ge
  | stats => exact (zero_add _).trans_le (add_zero _).ge
  | clone => exact (zero_add _).trans_le (add_zero _).ge

theorem client_pays (sound : s.limiter.Sound) (client : String) (op : Operation) :
    (if (s.step op).2 == .decided client .admitted then 1 else 0) +
        (s.step op).1.limiter.clientReserve (s.step op).1.now client ≤
      s.limiter.clientReserve s.now client +
        op.income s.limiter.limits.ipRate.toRat (slack s.limiter.limits.ipBurst) := by
  cases op with
  | allow other =>
    obtain ⟨verdict, limiter, step, charged⟩ := s.exists_step_allow other
    rw [step]
    simpa [Operation.income] using sound.client_pays charged client
  | advance d =>
    obtain ⟨later, moved, step⟩ := s.exists_step_advance d
    rw [step]
    have risen := sound.clientReserve_advance_le s.now client d
    rw [← moved] at risen
    simpa [Operation.income] using risen
  | sweep =>
    rw [step_sweep]
    simpa [Operation.income] using sound.clientReserve_sweep_le s.now client
  | stats =>
    rw [step_stats]
    simp [Operation.income]
  | clone =>
    rw [step_clone]
    simp [Operation.income]

/-- Over every stretch of operations from a reachable session on, each client is admitted, and the
global tier lets requests pass, at most as often as burst and rate allow for the time let pass,
and a `2 ^ 50`th of the burst for each request. -/
theorem Reachable.passes_within_rate (reachable : s.Reachable limits) (stretch : List Operation) :
    (∀ client, ((s.run stretch).2.count (.decided client .admitted) : ℚ) ≤
      limits.ipBurst.toNat + limits.ipRate.toRat * elapsed stretch +
        requests stretch * (limits.ipBurst.toNat / 2 ^ 50)) ∧
    ((s.run stretch).2.countP Outcome.passedGlobal : ℚ) ≤
      limits.globalBurst.toNat + limits.globalRate.toRat * elapsed stretch +
        requests stretch * (limits.globalBurst.toNat / 2 ^ 50) := by
  obtain rfl := reachable.limits_eq
  have sound := reachable.sound
  have sound' := sound_run sound stretch
  constructor
  · intro client
    have budget := run_budget (· == .decided client .admitted)
      (fun s => s.limiter.clientReserve s.now client)
      (fun s' sound' same op => same ▸ client_pays sound' client op) sound rfl stretch
    -- The reserve was the burst at most before, and is not negative afterwards.
    have spent := sound'.clientReserve_nonneg (s.run stretch).1.now client
    have full := sound.clientReserve_le s.now client
    rw [List.count]
    unfold slack at budget
    linarith
  · have budget := run_budget Outcome.passedGlobal (fun s => s.limiter.global.level s.now)
      (fun s' sound' same op => same ▸ global_pays sound' op) sound rfl stretch
    have spent := sound'.global.level_nonneg (s.run stretch).1.now
    have full := sound.global.level_le s.now
    unfold slack at budget
    linarith

/-- A client's burst is spent, and the clock is moved past its end. -/
def spent : Session :=
  (run ⟨.start .modest ⟨5⟩, ⟨5⟩⟩ [.allow "a", .allow "a", .advance .longest]).1

theorem reachable_spent : spent.Reachable .modest :=
  ⟨_, _, _, Limiter.new_modest ⟨5⟩, rfl⟩

/-- A sweep of the client's bucket, which is full again, and a second between its requests. -/
def rush : List Operation :=
  [.advance (.ofSeconds 3), .sweep, .allow "a", .allow "a", .allow "a", .advance (.ofSeconds 1),
    .allow "a"]

theorem passes_rush :
    spent.Reachable .modest ∧ (spent.run rush).2.count (.decided "a" .admitted) = 3 ∧
      ((3 : ℕ) : ℚ) ≤ Limits.modest.ipBurst.toNat + Limits.modest.ipRate.toRat * elapsed rush +
        requests rush * (Limits.modest.ipBurst.toNat / 2 ^ 50) := by
  have admitted : (spent.run rush).2.count (.decided "a" .admitted) = 3 := by decide +kernel
  refine ⟨reachable_spent, admitted, ?_⟩
  rw [← admitted]
  exact (Reachable.passes_within_rate reachable_spent rush).1 "a"

end Session

end Floodgate
