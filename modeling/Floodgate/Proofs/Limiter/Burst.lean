import Floodgate.Proofs.Limiter.Balance
import Floodgate.Proofs.Limiter.History

/-!
# Bursts

While the clock stands still, a limiter's decisions can be foretold from a snapshot. What the
global bucket and each client's bucket hold at that instant is worked out once, exactly, and from
then on every token taken makes it less by one: nothing is credited twice at one instant, one is
taken from a balance without rounding, and a sweep drops only buckets that hold as much as new
ones.

## Main definitions

* `Binary64.Denotes` — a finite number of an exact value
* `Bucket.holding`, `Limiter.holding` — what a bucket and a client's bucket hold at an instant
* `Limiter.Spends` — what one request takes
* `Verdict.forecast` — what a request of a burst is answered
* `Session.LeadsAtOnce`, `Session.Leaves` — a burst, and what is left after it

## Main results

* `Limiter.Charged.spends` — every request is decided by what the buckets hold
* `Session.LeadsAtOnce.verdict_eq` — which requests of a burst are refused, and by which tier
* `Session.Reachable.burst_forecast` — the same from a snapshot, with the balances left in the end
-/

namespace Floodgate

open Binary64

/-- A finite number of the given exact value. -/
structure Binary64.Denotes (x : Binary64) (value : ℚ) : Prop where
  isFinite : x.isFinite = true
  toRat_eq : x.toRat = value

theorem Binary64.Within.denotes {n : ℕ} {x : Binary64} (within : x.Within n) (small : n < 2 ^ 53) :
    x.Denotes x.toRat := ⟨within.isFinite small, rfl⟩

/-! ### One bucket -/

namespace Bucket

variable {capacity : UInt32} {rate : Binary64} {b b' : Bucket} {now : Instant}

/-- What a bucket holds at an instant, exactly. -/
def holding (b : Bucket) (now : Instant) : ℚ := (b.projected now).toRat

namespace Serves

theorem holding_nonneg (serves : b.Serves capacity rate) : 0 ≤ b.holding now :=
  (serves.within_projected now).toRat_nonneg (capacity_small capacity)

/-- At the instant of its last refill a bucket holds its balance. -/
theorem holding_self (serves : b.Serves capacity rate) (refilled : b.lastRefill = now) :
    b.holding now = b.tokens.toRat := by
  rw [holding, serves.projected_self refilled]

theorem holding_refill (serves : b.Serves capacity rate) (now : Instant) :
    (b.refill now).holding now = b.holding now :=
  (serves.refill now).holding_self (lastRefill_refill b now)

/-- A bucket is refused a token just when it does not hold one. -/
theorem take?_eq_none_iff (serves : b.Serves capacity rate) (refilled : b.lastRefill = now) :
    b.take? = none ↔ b.holding now < 1 := by
  rw [Bucket.take?_eq_none_iff, ← Bool.not_eq_true, serves.holding_self refilled,
    serves.tokens.one_le_iff_one_le_toRat (capacity_small capacity), not_le]

theorem one_le_holding (serves : b.Serves capacity rate) (refilled : b.lastRefill = now)
    (taken : b.take? = some b') : 1 ≤ b.holding now := by
  rw [← not_lt, ← serves.take?_eq_none_iff refilled, taken]
  exact Option.some_ne_none b'

/-- A token that was taken is missing exactly. -/
theorem holding_take (serves : b.Serves capacity rate) (refilled : b.lastRefill = now)
    (taken : b.take? = some b') : b'.holding now = b.holding now - 1 := by
  have serves' := serves.take taken
  have refilled' := (lastRefill_take taken).trans refilled
  obtain ⟨whole, rfl⟩ := take?_eq_some_iff.1 taken
  rw [serves'.holding_self refilled', serves.holding_self refilled]
  exact serves.tokens.toRat_sub_one (capacity_small capacity) whole

end Serves

end Bucket

/-! ### One request -/

namespace Limiter

variable {l l' : Limiter} {now : Instant} {client other : String} {verdict : Verdict}

/-- What a client's bucket holds at an instant, exactly; a client without one would be given a
full one. -/
def holding (l : Limiter) (now : Instant) (client : String) : ℚ :=
  match l.clients.get? client with
  | some b => b.holding now
  | none => l.limits.ipBurst.toNat

theorem Sound.holding_clientBucket (sound : l.Sound) (now : Instant) (client : String) :
    (l.clientBucket now client).holding now = l.holding now client := by
  rw [Limiter.clientBucket, holding]
  cases tracked : l.clients.get? client with
  | some b => exact (sound.clients client b tracked).holding_refill now
  | none =>
    have fresh := Bucket.Serves.full sound.meaningful.ipBurst sound.meaningful.ipRate now
    exact (fresh.holding_self rfl).trans (toRat_ofNat (capacity_small _))

theorem holding_set (l : Limiter) (global b : Bucket) (now : Instant) (client other : String) :
    holding { l with global, clients := l.clients.set client b } now other =
      if other = client then b.holding now else l.holding now other := by
  rw [holding, Clients.get?_set]
  split_ifs with same
  · rfl
  · rfl

/-- A sweep drops only what holds as much as a new bucket. -/
theorem Sound.holding_sweep (sound : l.Sound) (now : Instant) (client : String) :
    (l.sweep now).2.holding now client = l.holding now client := by
  rw [holding, holding, get?_sweep]
  cases tracked : l.clients.get? client with
  | none => rfl
  | some b =>
    rw [Option.filter_some]
    split_ifs with kept
    · rfl
    · have idle : l.isIdle now b = true := by simpa using kept
      have isFull := (Bool.and_eq_true _ _ ▸ idle).2
      dsimp only
      rw [Bucket.holding, (sound.clients client b tracked).projected_of_isFullAt isFull,
        toRat_ofNat (capacity_small _)]
      rfl

/-- What a request takes: the global tier refuses it just when it holds no token, and loses one
otherwise; then the client tier refuses it just when the client's bucket holds none, and otherwise
that bucket loses one. -/
structure Spends (l : Limiter) (now : Instant) (client : String) (verdict : Verdict)
    (l' : Limiter) : Prop where
  refused_iff : verdict = .refused .global ↔ l.global.holding now < 1
  admitted_iff : verdict.passedGlobal = true → (verdict = .admitted ↔ 1 ≤ l.holding now client)
  global_eq : l'.global.holding now =
    l.global.holding now - if verdict.passedGlobal then 1 else 0
  client_eq : ∀ other, l'.holding now other =
    l.holding now other - if client = other ∧ verdict = .admitted then 1 else 0
  refilled : l'.global.lastRefill = now

theorem Charged.spends (charged : l.Charged now client verdict l') (sound : l.Sound) :
    l.Spends now client verdict l' := by
  have serves := sound.global.refill now
  have refilled := Bucket.lastRefill_refill l.global now
  have held := sound.global.holding_refill now
  have serves' := sound.clientBucket now client
  have refilled' := l.lastRefill_clientBucket now client
  have held' := sound.holding_clientBucket now client
  cases charged with
  | globalRefused exhausted =>
    have less := (serves.take?_eq_none_iff refilled).1 exhausted
    rw [held] at less
    refine ⟨iff_of_true rfl less, nofun, ?_, ?_, rfl⟩
    · exact held.trans (sub_zero (l.global.holding now)).symm
    · intro other
      rw [if_neg (fun both => nomatch both.2), sub_zero]
      rfl
  | @clientRefused global passed exhausted =>
    have whole := serves.one_le_holding refilled passed
    have less := (serves'.take?_eq_none_iff refilled').1 exhausted
    have left := serves.holding_take refilled passed
    rw [held] at whole left
    rw [held'] at less
    refine ⟨iff_of_false nofun whole.not_gt, fun _ => iff_of_false nofun less.not_ge, left, ?_,
      (Bucket.lastRefill_take passed).trans refilled⟩
    intro other
    rw [if_neg (fun both => nomatch both.2), sub_zero, holding_set]
    split_ifs with same
    · rw [held', same]
    · rfl
  | @admitted global b passed taken =>
    have whole := serves.one_le_holding refilled passed
    have whole' := serves'.one_le_holding refilled' taken
    have left := serves.holding_take refilled passed
    have left' := serves'.holding_take refilled' taken
    rw [held] at whole left
    rw [held'] at whole' left'
    refine ⟨iff_of_false nofun whole.not_gt, fun _ => iff_of_true rfl whole', left, ?_,
      (Bucket.lastRefill_take passed).trans refilled⟩
    intro other
    rw [holding_set]
    by_cases same : other = client
    · rw [if_pos same, if_pos ⟨same.symm, rfl⟩, left', same]
    · rw [if_neg same, if_neg fun both => same both.1.symm, sub_zero]

end Limiter

/-- What the `j`-th request of a burst is answered, the `m`-th one of its client, when the global
bucket holds `budget` whole tokens to begin with and the client's bucket `share`. -/
def Verdict.forecast (budget share j m : ℕ) : Verdict :=
  if budget < j then .refused .global else if share < m then .refused .client else .admitted

namespace Verdict

variable {budget share j m : ℕ}

theorem forecast_eq_admitted_iff :
    forecast budget share j m = .admitted ↔ j ≤ budget ∧ m ≤ share := by
  unfold forecast
  split_ifs with exhausted exhausted'
  · exact iff_of_false nofun (by omega)
  · exact iff_of_false nofun (by omega)
  · exact iff_of_true rfl (by omega)

/-- After a request of another client there is one global token less. -/
theorem forecast_other (first : 1 ≤ j) :
    forecast (budget - 1) share j m = forecast budget share (j + 1) m := by
  unfold forecast
  exact if_congr (by omega) rfl rfl

/-- After a request of the same client its bucket has one token less, too, if it had any. -/
theorem forecast_same (first : 1 ≤ j) (first' : 1 ≤ m) :
    forecast (budget - 1) (share - if forecast budget share 1 1 = .admitted then 1 else 0) j m =
      forecast budget share (j + 1) (m + 1) := by
  simp only [forecast_eq_admitted_iff]
  unfold forecast
  by_cases exhausted : budget < j + 1
  · rw [if_pos exhausted, if_pos (by omega)]
  · rw [if_neg exhausted, if_neg (by omega)]
    exact if_congr (by split_ifs <;> omega) rfl rfl

end Verdict

namespace Limiter.Spends

variable {l l' : Limiter} {now : Instant} {client other : String} {verdict : Verdict}

/-- The whole tokens that a client's bucket holds after a request. -/
theorem floor_client (spends : l.Spends now client verdict l') (other : String) :
    ⌊l'.holding now other⌋₊ =
      ⌊l.holding now other⌋₊ - if client = other ∧ verdict = .admitted then 1 else 0 := by
  rw [spends.client_eq]
  split_ifs with own
  · exact Nat.floor_sub_one _
  · rw [sub_zero, Nat.sub_zero]

/-- The global tier lets a request pass just when it holds a whole token. -/
theorem passedGlobal_iff (spends : l.Spends now client verdict l') :
    verdict.passedGlobal = true ↔ 1 ≤ ⌊l.global.holding now⌋₊ := by
  rw [Nat.one_le_floor_iff, ← not_lt, ← spends.refused_iff, ← Verdict.passedGlobal_eq_false_iff,
    Bool.not_eq_false]

/-- The whole tokens that the global bucket holds after a request. -/
theorem floor_global (spends : l.Spends now client verdict l') :
    ⌊l'.global.holding now⌋₊ = ⌊l.global.holding now⌋₊ - 1 := by
  have passed := spends.passedGlobal_iff
  rw [spends.global_eq]
  split_ifs with some
  · exact Nat.floor_sub_one _
  · rw [passed] at some
    rw [sub_zero]
    omega

/-- The first request of a burst. -/
theorem verdict_eq (spends : l.Spends now client verdict l') :
    verdict = .forecast ⌊l.global.holding now⌋₊ ⌊l.holding now client⌋₊ 1 1 := by
  have admitted := spends.admitted_iff
  rw [← Nat.one_le_floor_iff, spends.passedGlobal_iff] at admitted
  have passed := spends.passedGlobal_iff
  unfold Verdict.forecast
  split_ifs with exhausted exhausted'
  · rw [← Verdict.passedGlobal_eq_false_iff, ← Bool.not_eq_true, passed]
    exact exhausted.not_ge
  · cases verdict with
    | admitted => exact absurd ((admitted (not_lt.1 exhausted)).1 rfl) exhausted'.not_ge
    | refused tier =>
      cases tier with
      | global => exact absurd (passed.2 (not_lt.1 exhausted)) Bool.false_ne_true
      | client => rfl
  · exact (admitted (not_lt.1 exhausted)).2 (not_lt.1 exhausted')

end Limiter.Spends

/-! ### While the clock stands still -/

/-- The operation leaves the clock alone. -/
def Operation.isStill : Operation → Bool
  | .advance _ => false
  | _ => true

/-- A client has a bucket that was refilled at this instant. -/
def Limiter.Touched (l : Limiter) (now : Instant) (client : String) : Prop :=
  ∃ b, l.clients.get? client = some b ∧ b.lastRefill = now

/-- A bucket that was refilled at this instant is not idle. -/
theorem Limiter.Touched.sweep {l : Limiter} {now : Instant} {client : String}
    (touched : l.Touched now client) : (l.sweep now).2.Touched now client := by
  obtain ⟨b, tracked, refilled⟩ := touched
  have recent : l.isIdle now b = false := by
    rw [Limiter.isIdle, refilled, Instant.since_self, decide_eq_false (Nat.not_lt_zero _),
      Bool.false_and]
  refine ⟨b, ?_, refilled⟩
  rw [Limiter.get?_sweep, tracked, Option.filter_some, recent]
  rfl

namespace Session

/-- A history without any move of the clock. -/
def LeadsAtOnce (s : Session) (calls : List Call) (s' : Session) : Prop :=
  s.Leads (fun _ _ => False) calls s'

theorem leadsAtOnce_of_still {s : Session} {ops : List Operation}
    (still : ∀ op ∈ ops, op.isStill = true) : s.LeadsAtOnce (s.calls ops) (s.run ops).1 := by
  induction ops generalizing s with
  | nil => exact .done s
  | cons op ops ih =>
    obtain ⟨here, still⟩ := List.forall_mem_cons.1 still
    refine (ih still).step ?_
    rintro d rfl
    exact Bool.false_ne_true here

variable {s s' : Session} {calls : List Call}

/-- Every call of a burst is answered as forecast from what the buckets hold before it. -/
theorem LeadsAtOnce.verdict_eq (leads : s.LeadsAtOnce calls s') (sound : s.limiter.Sound)
    {earlier later : List Call} {k : Call} (split : calls = earlier ++ k :: later) :
    k.verdict = .forecast ⌊s.limiter.global.holding s.now⌋₊ ⌊s.limiter.holding s.now k.client⌋₊
      (earlier.length + 1) (earlier.countP (·.client = k.client) + 1) := by
  unfold LeadsAtOnce at leads
  induction leads generalizing earlier with
  | done => exact absurd split (by simp)
  | @request _ _ client _ _ _ charged _ ih =>
    have spends := charged.spends sound
    cases earlier with
    | nil =>
      obtain ⟨rfl, rfl⟩ := List.cons.inj split
      exact spends.verdict_eq
    | cons first earlier =>
      -- The rest is a burst of its own, after the tokens that the first request took.
      obtain ⟨rfl, rest⟩ := List.cons.inj split
      rw [ih (sound.charged charged) rest]
      dsimp only
      rw [spends.floor_global, spends.floor_client, List.length_cons, List.countP_cons]
      dsimp only
      by_cases own : client = k.client
      · subst own
        simp only [true_and, decide_true, if_true, spends.verdict_eq]
        exact Verdict.forecast_same (Nat.le_add_left _ _) (Nat.le_add_left _ _)
      · rw [if_neg (fun both => own both.1), if_neg (by simpa using own), Nat.sub_zero,
          Nat.add_zero]
        exact Verdict.forecast_other (Nat.le_add_left _ _)
  | move moved => exact moved.elim
  | @sweep s _ _ _ ih =>
    rw [ih (sound.sweep s.now) split]
    dsimp only
    rw [sound.holding_sweep]
    rfl

/-- What is left after a burst: the clock stands where it stood, each bucket has lost a token for
every request that it let pass, and what was refilled in between was refilled at this instant. -/
structure Leaves (s : Session) (calls : List Call) (s' : Session) : Prop where
  now_eq : s'.now = s.now
  global_eq : s'.limiter.global.holding s.now = s.limiter.global.holding s.now -
    min calls.length ⌊s.limiter.global.holding s.now⌋₊
  client_eq : ∀ client, s'.limiter.holding s.now client = s.limiter.holding s.now client -
    calls.countP fun k => k.client = client ∧ k.verdict = .admitted
  refilled : s.limiter.global.lastRefill = s.now ∨ calls ≠ [] →
    s'.limiter.global.lastRefill = s.now
  touched : ∀ client, s.limiter.Touched s.now client ∨
    (∃ k ∈ calls, k.client = client ∧ k.verdict.passedGlobal = true) →
    s'.limiter.Touched s.now client

theorem Leaves.done (s : Session) : s.Leaves [] s := by
  refine ⟨rfl, by simp, by simp, ?_, ?_⟩
  · rintro (refilled | some)
    · exact refilled
    · exact absurd rfl some
  · rintro client (touched | ⟨k, mem, -⟩)
    · exact touched
    · exact absurd mem List.not_mem_nil

theorem Leaves.request {client : String} {verdict : Verdict} {limiter : Limiter}
    (sound : s.limiter.Sound) (charged : s.limiter.Charged s.now client verdict limiter)
    (rest : Leaves { s with limiter } calls s') :
    s.Leaves (⟨client, s.now, verdict, limiter.globalTokens⟩ :: calls) s' := by
  have spends := charged.spends sound
  refine ⟨rest.now_eq, ?_, ?_, fun _ => rest.refilled (.inl spends.refilled), ?_⟩
  · have passed := spends.passedGlobal_iff
    have taken : min (calls.length + 1) ⌊s.limiter.global.holding s.now⌋₊ =
        min calls.length (⌊s.limiter.global.holding s.now⌋₊ - 1) +
          if verdict.passedGlobal then 1 else 0 := by
      split_ifs with some <;> rw [passed] at some <;> omega
    rw [rest.global_eq, List.length_cons, taken]
    dsimp only
    rw [spends.floor_global, spends.global_eq]
    push_cast
    ring
  · intro other
    rw [rest.client_eq, List.countP_cons]
    dsimp only
    rw [spends.client_eq]
    push_cast
    simp only [decide_eq_true_eq]
    ring
  · intro other cause
    refine rest.touched other ?_
    by_cases own : client = other ∧ verdict.passedGlobal = true
    · obtain ⟨rfl, past⟩ := own
      exact .inl (charged.exists_bucket past)
    · refine cause.imp ?_ ?_
      · rintro ⟨b, tracked, refilled⟩
        exact ⟨b, (charged.get?_of_not_past own).trans tracked, refilled⟩
      · rintro ⟨k, mem, past⟩
        obtain rfl | mem := List.mem_cons.1 mem
        · exact absurd past own
        · exact ⟨k, mem, past⟩

theorem Leaves.sweep (sound : s.limiter.Sound)
    (rest : Leaves { s with limiter := (s.limiter.sweep s.now).2 } calls s') :
    s.Leaves calls s' := by
  refine ⟨rest.now_eq, rest.global_eq, ?_, rest.refilled, ?_⟩
  · intro client
    rw [rest.client_eq]
    dsimp only
    rw [sound.holding_sweep]
  · intro client cause
    exact rest.touched client (cause.imp_left Limiter.Touched.sweep)

theorem LeadsAtOnce.leaves (leads : s.LeadsAtOnce calls s') (sound : s.limiter.Sound) :
    s.Leaves calls s' := by
  unfold LeadsAtOnce at leads
  induction leads with
  | done s => exact .done s
  | request charged _ ih => exact .request sound charged (ih (sound.charged charged))
  | move moved => exact moved.elim
  | sweep _ ih => exact .sweep sound (ih (sound.sweep _))

/-- In every reachable session a snapshot foretells the burst that follows while the clock stands
still: which requests are refused and by which tier, and what the buckets hold in the end. The
`j`-th request is refused globally when `j` exceeds the global tokens of the snapshot, and the
`m`-th one of its client otherwise when `m` exceeds the whole tokens of the client's bucket. -/
theorem Reachable.burst_forecast {limits : Limits} {s : Session} (reachable : s.Reachable limits)
    {ops : List Operation} (still : ∀ op ∈ ops, op.isStill = true) :
    let budget := (s.limiter.stats s.now).globalTokensAvailable
    let calls := s.calls ops
    let s' := (s.run ops).1
    (∀ earlier k later, calls = earlier ++ k :: later →
      k.verdict = .forecast budget ⌊s.limiter.holding s.now k.client⌋₊
        (earlier.length + 1) (earlier.countP (·.client = k.client) + 1)) ∧
    (s'.limiter.global.projected s'.now).Denotes
      (s.limiter.global.holding s.now - min calls.length budget) ∧
    (calls ≠ [] → s'.limiter.globalTokens.Denotes
      (s.limiter.global.holding s.now - min calls.length budget)) ∧
    ∀ client, (∃ k ∈ calls, k.client = client ∧ k.verdict.passedGlobal = true) →
      ∃ balance, s'.limiter.clientTokens client = some balance ∧
        balance.Denotes (s.limiter.holding s.now client -
          calls.countP fun k => k.client = client ∧ k.verdict = .admitted) := by
  have sound := reachable.sound
  have leads := leadsAtOnce_of_still (s := s) still
  have leaves := leads.leaves sound
  have sound' := sound_run sound ops
  have told :
      (s.limiter.stats s.now).globalTokensAvailable = ⌊s.limiter.global.holding s.now⌋₊ := by
    rw [← Int.natCast_inj, Int.natCast_floor_eq_floor sound.global.holding_nonneg]
    exact sound.global.floorBelow_projected s.now
  dsimp only
  rw [told, ← leaves.global_eq, leaves.now_eq]
  refine ⟨fun _ _ _ => leads.verdict_eq sound, ?_, ?_, ?_⟩
  · exact (sound'.global.within_projected s.now).denotes (capacity_small _)
  · intro some
    rw [sound'.global.holding_self (leaves.refilled (.inr some))]
    exact sound'.global.tokens.denotes (capacity_small _)
  · intro client past
    obtain ⟨b, tracked, refilled⟩ := leaves.touched client (.inr past)
    have serves := sound'.clients client b tracked
    refine ⟨b.tokens, by rw [Limiter.clientTokens, tracked]; rfl, ?_⟩
    rw [← leaves.client_eq, Limiter.holding, tracked]
    dsimp only
    rw [serves.holding_self refilled]
    exact serves.tokens.denotes (capacity_small _)

/-- Three and a half tokens for all and one and a half for a client; the bucket of another one is
full again. -/
def uneven : Session :=
  (run ⟨.start .modest .base, .base⟩ [.allow "b", .advance (.ofSeconds 1), .allow "a", .allow "a",
    .advance ⟨1, 500000000, by decide⟩]).1

theorem reachable_uneven : uneven.Reachable .modest :=
  ⟨_, _, _, Limiter.new_modest .base, rfl⟩

/-- The first client asks twice, then the other one, whose bucket was swept, then a third. -/
def scramble : List Operation := [.allow "a", .sweep, .allow "a", .allow "b", .allow "c"]

theorem forecast_scramble :
    uneven.Reachable .modest ∧ (∀ op ∈ scramble, op.isStill = true) ∧
      Outcome.swept 1 ∈ (uneven.run scramble).2 ∧
      (uneven.calls scramble).map Call.verdict =
        [.admitted, .refused .client, .admitted, .refused .global] ∧
      (∀ earlier k later, uneven.calls scramble = earlier ++ k :: later →
        k.verdict = .forecast 3 ⌊uneven.limiter.holding uneven.now k.client⌋₊
          (earlier.length + 1) (earlier.countP (·.client = k.client) + 1)) ∧
      (uneven.run scramble).1.limiter.globalTokens = ofBits 0x3fe0000000000000 ∧
      (uneven.run scramble).1.limiter.globalTokens.Denotes
        (uneven.limiter.global.holding uneven.now - min (uneven.calls scramble).length 3) := by
  have still : ∀ op ∈ scramble, op.isStill = true := by decide
  have budget : (uneven.limiter.stats uneven.now).globalTokensAvailable = 3 := by decide +kernel
  obtain ⟨verdicts, -, global, -⟩ := Reachable.burst_forecast reachable_uneven still
  rw [budget] at verdicts global
  refine ⟨reachable_uneven, still, by decide +kernel, by decide +kernel, verdicts,
    by decide +kernel, global ?_⟩
  decide +kernel

end Session

end Floodgate
