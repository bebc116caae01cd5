import Floodgate.Proofs.Limiter.Eviction

/-!
# Isolation of clients

While the clock does not go back, the client tier answers each client as a bucket of the client's
own would that nobody else charges and no sweep touches: from the instants alone at which the
client's requests get past the global tier. Other clients, sweeps and requests that the global
tier refuses leave no trace in those answers.

## Main definitions

* `Limits.replay` — what one bucket answers to requests at given instants
* `callsPast` — the calls of a client that get past the global tier

## Main results

* `Session.verdicts_eq_replay` — a client's answers are those of its own bucket
* `Session.clients_isolated` — equal instants have equal answers in any two runs
-/

namespace Floodgate

/-- What the client tier answers to requests at the given instants, from the bucket that the
client has to begin with. -/
def Limits.replay (limits : Limits) : Option Bucket → List Instant → List Verdict
  | _, [] => []
  | held, now :: instants =>
    match (limits.ready now held).take? with
    | none => .refused .client :: limits.replay (some (limits.ready now held)) instants
    | some b => .admitted :: limits.replay (some b) instants

/-- The call is the client's, and the global tier let it pass. -/
def Call.isPast (client : String) (k : Call) : Bool :=
  decide (k.client = client) && k.verdict.passedGlobal

/-- The calls of a client that got past the global tier. -/
def callsPast (client : String) (calls : List Call) : List Call :=
  calls.filter (·.isPast client)

open Bucket

/-- A request that gets past the global tier is answered as the bucket that is stood for would
answer it, and leaves the client with the bucket that this one would be afterwards. -/
theorem Limiter.Charged.replay_eq {l l' : Limiter} {now : Instant} {client : String}
    {verdict : Verdict} (charged : l.Charged now client verdict l')
    (past : verdict.passedGlobal = true) {kept : Option Bucket}
    (stands : StandsFor now (l.clients.get? client) kept)
    (serves : ∀ b, kept = some b → b.Serves l.limits.ipBurst l.limits.ipRate) :
    ∃ b, l'.clients.get? client = some b ∧ ∀ instants,
      l.limits.replay kept (now :: instants) = verdict :: l.limits.replay (some b) instants := by
  have ready := stands.ready_eq serves
  rw [← clientBucket_eq_ready] at ready
  cases charged with
  | globalRefused _ => exact absurd past (by decide)
  | clientRefused _ exhausted =>
    refine ⟨l.clientBucket now client, ?_, ?_⟩
    · rw [Clients.get?_set, if_pos rfl]
    · intro instants
      rw [Limits.replay, ← ready, exhausted]
  | @admitted global b _ taken =>
    refine ⟨b, ?_, ?_⟩
    · rw [Clients.get?_set, if_pos rfl]
    · intro instants
      rw [Limits.replay, ← ready, taken]

namespace Session

/-- From a session on in which a client's bucket is stood for, the client tier answers the client
as that bucket alone would. -/
theorem verdicts_eq_replay (client : String) {s : Session} (sound : s.limiter.Sound)
    {kept : Option Bucket} (stands : StandsFor s.now (s.limiter.clients.get? client) kept)
    (serves : ∀ b, kept = some b →
      b.Serves s.limiter.limits.ipBurst s.limiter.limits.ipRate)
    {ops : List Operation} (forward : s.Forward ops) :
    (callsPast client (s.calls ops)).map Call.verdict =
      s.limiter.limits.replay kept ((callsPast client (s.calls ops)).map Call.instant) := by
  -- Along the run the limiter has a stand-in for the bucket that the replay holds.
  induction ops generalizing s kept with
  | nil => rw [calls, callsPast, List.filter_nil, List.map_nil, List.map_nil, Limits.replay]
  | cons op ops ih =>
    obtain ⟨le, forward⟩ := forward
    have sound' := sound_step sound op
    cases op with
    | allow other =>
      obtain ⟨verdict, limiter, step, charged⟩ := s.exists_step_allow other
      have limits_eq := charged.limits_eq
      rw [step] at forward sound'
      rw [calls, call?_allow step, step, Option.toList_some, List.singleton_append]
      by_cases past : other = client ∧ verdict.passedGlobal = true
      · -- The replay makes the same step, and from then on holds the tracked bucket.
        obtain ⟨rfl, passed⟩ := past
        obtain ⟨b, tracked, answer⟩ := charged.replay_eq passed stands serves
        have serves' : ∀ b', some b = some b' →
            b'.Serves limiter.limits.ipBurst limiter.limits.ipRate := by
          intro b' same
          obtain rfl := Option.some.inj same
          exact sound'.clients other b tracked
        have stands' : StandsFor s.now (limiter.clients.get? other) (some b) := by
          rw [tracked]
          exact .same (some b)
        have rest := ih sound' stands' serves' forward
        rw [callsPast, List.filter_cons_of_pos (by simp [Call.isPast, passed]), List.map_cons,
          List.map_cons, answer, ← limits_eq]
        exact congrArg _ rest
      · -- The client's bucket is left alone.
        have stands' := stands
        rw [← charged.get?_of_not_past past] at stands'
        rw [callsPast, List.filter_cons_of_neg (by simpa [Call.isPast] using past)]
        rw [← limits_eq] at serves ⊢
        exact ih sound' stands' serves forward
    | advance d =>
      obtain ⟨later, moved, step⟩ := s.exists_step_advance d
      rw [step] at le forward sound'
      rw [calls, call?, step]
      exact ih sound' (stands.later serves le) serves forward
    | sweep =>
      have swept : StandsFor s.now ((s.limiter.sweep s.now).2.clients.get? client) kept := by
        rw [Limiter.get?_sweep]
        exact stands.sweep
      exact ih sound' swept serves forward
    | stats => exact ih sound' stands serves forward
    | clone => exact ih sound' stands serves forward

/-- In any two runs of the same limits whose clocks never go back, a client whose requests get
past the global tier at the same instants is given the same answers. -/
theorem clients_isolated {limits : Limits} {limiter limiter' : Limiter} {now now' : Instant}
    (made : Limiter.new limits now = .ok limiter) (made' : Limiter.new limits now' = .ok limiter')
    {ops ops' : List Operation} (forward : Forward ⟨limiter, now⟩ ops)
    (forward' : Forward ⟨limiter', now'⟩ ops') (client : String)
    (same : (callsPast client (calls ⟨limiter, now⟩ ops)).map Call.instant =
      (callsPast client (calls ⟨limiter', now'⟩ ops')).map Call.instant) :
    (callsPast client (calls ⟨limiter, now⟩ ops)).map Call.verdict =
      (callsPast client (calls ⟨limiter', now'⟩ ops')).map Call.verdict := by
  obtain ⟨meaningful, rfl⟩ := Limiter.new_eq_ok_iff.1 made
  obtain ⟨-, rfl⟩ := Limiter.new_eq_ok_iff.1 made'
  have untracked : ∀ b : Bucket, none = some b → b.Serves limits.ipBurst limits.ipRate :=
    fun b tracked => absurd tracked (Option.some_ne_none b).symm
  rw [verdicts_eq_replay client (Limiter.sound_start meaningful now) (.same none) untracked
      forward, same,
    verdicts_eq_replay client (Limiter.sound_start meaningful now') (.same none) untracked
      forward']
  rfl

/-- Another client takes half of the global burst before a client spends its own, and the global
tier refuses one more request of the client. -/
def crowd : List Operation :=
  [.allow "b", .allow "b", .sweep, .allow "a", .allow "a", .allow "a", .advance (.ofSeconds 3),
    .allow "a", .allow "a", .allow "a"]

theorem crowd_isolated :
    Forward ⟨.start .modest .base, .base⟩ visits ∧ Forward ⟨.start .modest .base, .base⟩ crowd ∧
      (callsPast "a" (calls ⟨.start .modest .base, .base⟩ visits)).map Call.verdict =
        (callsPast "a" (calls ⟨.start .modest .base, .base⟩ crowd)).map Call.verdict := by
  have forward : Forward ⟨.start .modest .base, .base⟩ visits := by decide +kernel
  have forward' : Forward ⟨.start .modest .base, .base⟩ crowd := by decide +kernel
  have same : (callsPast "a" (calls ⟨.start .modest .base, .base⟩ visits)).map Call.instant =
      (callsPast "a" (calls ⟨.start .modest .base, .base⟩ crowd)).map Call.instant := by
    decide +kernel
  refine ⟨forward, forward', ?_⟩
  exact clients_isolated (Limiter.new_modest .base) (Limiter.new_modest .base) forward forward' "a"
    same

end Session

end Floodgate
