import Floodgate.Limiter.Session
import Floodgate.Proofs.Bucket.Projection

/-!
# Reachable limiters

What a decision and a sweep can do, and what every limiter keeps to from its creation on: each
bucket serves its tier.

## Main definitions

* `Limiter.Charged` — the three ways in which a request is decided
* `Limiter.Sound` — meaningful limits and buckets that serve their tiers
* `Session.Reachable` — sessions of accepted limits after any operations
* `Limits.modest` — accepted limits with small numbers

## Main results

* `Limiter.charged` — a decision is made in one of the three ways
* `Session.run_invariant` — what every operation preserves is preserved by runs
* `Session.Reachable.sound` — reachable limiters are sound
-/

namespace Floodgate

namespace Limiter

/-- The three ways in which a client's request is decided at `now`, each with the limiter that it
leaves behind. -/
inductive Charged (l : Limiter) (now : Instant) (client : String) : Verdict → Limiter → Prop
  | globalRefused (exhausted : (l.global.refill now).take? = none) :
      Charged l now client (.refused .global) { l with global := l.global.refill now }
  | clientRefused {global : Bucket} (passed : (l.global.refill now).take? = some global)
      (exhausted : (l.clientBucket now client).take? = none) :
      Charged l now client (.refused .client)
        { l with global, clients := l.clients.set client (l.clientBucket now client) }
  | admitted {global b : Bucket} (passed : (l.global.refill now).take? = some global)
      (taken : (l.clientBucket now client).take? = some b) :
      Charged l now client .admitted { l with global, clients := l.clients.set client b }

theorem charged (l : Limiter) (now : Instant) (client : String) :
    l.Charged now client (l.charge now client).1 (l.charge now client).2 := by
  unfold charge
  dsimp only
  split
  · next exhausted => exact .globalRefused exhausted
  · next global passed =>
    split
    · next exhausted => exact .clientRefused passed exhausted
    · next b taken => exact .admitted passed taken

namespace Charged

variable {l l' : Limiter} {now : Instant} {client other : String} {verdict : Verdict}

theorem limits_eq (charged : l.Charged now client verdict l') : l'.limits = l.limits := by
  cases charged <;> rfl

/-- A decision touches no bucket but that of a client whose request the global tier lets pass. -/
theorem get?_of_not_past (charged : l.Charged now client verdict l')
    (apart : ¬(client = other ∧ verdict.passedGlobal = true)) :
    l'.clients.get? other = l.clients.get? other := by
  cases charged with
  | globalRefused _ => rfl
  | clientRefused _ _ =>
    rw [Clients.get?_set, if_neg fun same => apart ⟨same.symm, rfl⟩]
  | admitted _ _ =>
    rw [Clients.get?_set, if_neg fun same => apart ⟨same.symm, rfl⟩]

end Charged

theorem lastRefill_clientBucket (l : Limiter) (now : Instant) (client : String) :
    (l.clientBucket now client).lastRefill = now := by
  rw [clientBucket]
  cases l.clients.get? client <;> rfl

/-- What a sweep leaves of a client's bucket. -/
theorem get?_sweep (l : Limiter) (now : Instant) (client : String) :
    (l.sweep now).2.clients.get? client =
      (l.clients.get? client).filter (fun b => !l.isIdle now b) :=
  Clients.get?_retain _ _ _

/-- Meaningful limits, and buckets that serve their tiers. -/
structure Sound (l : Limiter) : Prop where
  meaningful : l.limits.Meaningful
  global : l.global.Serves l.limits.globalBurst l.limits.globalRate
  clients : ∀ client b, l.clients.get? client = some b →
    b.Serves l.limits.ipBurst l.limits.ipRate

theorem new_eq_ok_iff {limits : Limits} {now : Instant} {l : Limiter} :
    Limiter.new limits now = .ok l ↔ limits.Meaningful ∧ l = start limits now := by
  rw [new]
  cases valid : limits.validated with
  | error e =>
    refine ⟨fun made => (nomatch made), ?_⟩
    rintro ⟨meaningful, -⟩
    rw [Limits.validated_eq_ok_iff.2 ⟨rfl, meaningful⟩] at valid
    cases valid
  | ok limits' =>
    obtain ⟨rfl, meaningful⟩ := Limits.validated_eq_ok_iff.1 valid
    constructor
    · intro made
      exact ⟨meaningful, (Except.ok.inj made).symm⟩
    · rintro ⟨-, rfl⟩
      rfl

theorem sound_start {limits : Limits} (meaningful : limits.Meaningful) (now : Instant) :
    (start limits now).Sound :=
  ⟨meaningful, .full meaningful.globalBurst meaningful.globalRate now,
    fun _ _ tracked => (nomatch tracked)⟩

namespace Sound

variable {l l' : Limiter} {now : Instant} {client : String} {verdict : Verdict}

theorem clientBucket (sound : l.Sound) (now : Instant) (client : String) :
    (l.clientBucket now client).Serves l.limits.ipBurst l.limits.ipRate := by
  rw [Limiter.clientBucket]
  cases tracked : l.clients.get? client with
  | none => exact .full sound.meaningful.ipBurst sound.meaningful.ipRate now
  | some b => exact (sound.clients client b tracked).refill now

theorem set (sound : l.Sound) {global b : Bucket}
    (serves : global.Serves l.limits.globalBurst l.limits.globalRate)
    (serves' : b.Serves l.limits.ipBurst l.limits.ipRate) :
    Sound { l with global, clients := l.clients.set client b } := by
  refine ⟨sound.meaningful, serves, ?_⟩
  intro other b' tracked
  rw [Clients.get?_set] at tracked
  split_ifs at tracked with same
  · obtain rfl := Option.some.inj tracked
    exact serves'
  · exact sound.clients other b' tracked

theorem charged (sound : l.Sound) (charged : l.Charged now client verdict l') : l'.Sound := by
  have refilled := sound.global.refill now
  have serves := sound.clientBucket now client
  cases charged with
  | globalRefused _ => exact ⟨sound.meaningful, refilled, sound.clients⟩
  | clientRefused passed _ => exact sound.set (refilled.take passed) serves
  | admitted passed taken => exact sound.set (refilled.take passed) (serves.take taken)

theorem sweep (sound : l.Sound) (now : Instant) : (l.sweep now).2.Sound := by
  refine ⟨sound.meaningful, sound.global, ?_⟩
  intro client b tracked
  -- What is left of the clients was there before.
  rw [get?_sweep, Option.filter_eq_some_iff] at tracked
  exact sound.clients client b tracked.1

end Sound

end Limiter

namespace Session

theorem step_allow (s : Session) (client : String) :
    s.step (.allow client) =
      ({ s with limiter := (s.limiter.charge s.now client).2 },
        .decided client (s.limiter.charge s.now client).1) := by
  rw [step]

/-- A request changes the limiter in one of the three ways and leaves the clock alone. -/
theorem exists_step_allow (s : Session) (client : String) :
    ∃ verdict limiter, s.step (.allow client) = ({ s with limiter }, .decided client verdict) ∧
      s.limiter.Charged s.now client verdict limiter :=
  ⟨_, _, step_allow s client, s.limiter.charged s.now client⟩

/-- Moving the clock leaves the limiter alone. The new instant is kept closed, since comparing it
with the old one by evaluation does not end. -/
theorem exists_step_advance (s : Session) (d : Span) :
    ∃ later, later = s.now.advance d ∧
      s.step (.advance d) = ({ s with now := later }, .moved later) :=
  ⟨_, rfl, rfl⟩

theorem step_sweep (s : Session) :
    s.step .sweep =
      ({ s with limiter := (s.limiter.sweep s.now).2 }, .swept (s.limiter.sweep s.now).1) := rfl

theorem step_stats (s : Session) :
    s.step .stats = (s, .counted (s.limiter.stats s.now)) := rfl

theorem step_clone (s : Session) : s.step .clone = (s, .cloned) := rfl

theorem limits_step (s : Session) (op : Operation) :
    (s.step op).1.limiter.limits = s.limiter.limits := by
  cases op with
  | allow client =>
    rw [step_allow]
    exact Limiter.limits_charge s.limiter s.now client
  | advance d =>
    obtain ⟨later, -, step⟩ := s.exists_step_advance d
    rw [step]
  | sweep => rfl
  | stats => rfl
  | clone => rfl

theorem sound_step {s : Session} (sound : s.limiter.Sound) (op : Operation) :
    (s.step op).1.limiter.Sound := by
  cases op with
  | allow client =>
    obtain ⟨verdict, limiter, step, charged⟩ := s.exists_step_allow client
    rw [step]
    exact sound.charged charged
  | advance d =>
    obtain ⟨later, -, step⟩ := s.exists_step_advance d
    rw [step]
    exact sound
  | sweep => exact sound.sweep s.now
  | stats => exact sound
  | clone => exact sound

/-- What every operation preserves holds after a run if it holds before. -/
theorem run_invariant {P : Session → Prop} (preserved : ∀ s op, P s → P (s.step op).1)
    {s : Session} (initial : P s) (ops : List Operation) : P (s.run ops).1 := by
  induction ops generalizing s with
  | nil => exact initial
  | cons op ops ih => exact ih (preserved s op initial)

theorem limits_run (s : Session) (ops : List Operation) :
    (s.run ops).1.limiter.limits = s.limiter.limits := by
  refine run_invariant (P := fun t => t.limiter.limits = s.limiter.limits) ?_ rfl ops
  intro t op same
  exact (limits_step t op).trans same

theorem sound_run {s : Session} (sound : s.limiter.Sound) (ops : List Operation) :
    (s.run ops).1.limiter.Sound := by
  refine run_invariant (P := fun t => t.limiter.Sound) ?_ sound ops
  intro t op sound
  exact sound_step sound op

/-- A session of accepted limits: a limiter made at any instant, after any operations. -/
def Reachable (limits : Limits) (s : Session) : Prop :=
  ∃ limiter now ops, Limiter.new limits now = .ok limiter ∧ (run ⟨limiter, now⟩ ops).1 = s

namespace Reachable

variable {limits : Limits} {s : Session}

theorem limits_eq (reachable : s.Reachable limits) : s.limiter.limits = limits := by
  obtain ⟨limiter, now, ops, made, rfl⟩ := reachable
  obtain ⟨-, rfl⟩ := Limiter.new_eq_ok_iff.1 made
  exact limits_run _ ops

theorem sound (reachable : s.Reachable limits) : s.limiter.Sound := by
  obtain ⟨limiter, now, ops, made, rfl⟩ := reachable
  obtain ⟨meaningful, rfl⟩ := Limiter.new_eq_ok_iff.1 made
  exact sound_run (Limiter.sound_start meaningful now) ops

end Reachable

end Session

/-! ### Limits and a span to run with -/

/-- One token a second, two of them held for each client and four for all, swept after two
seconds. -/
def Limits.modest : Limits := ⟨.one, 2, .one, 4, .ofSeconds 2⟩

theorem Limits.meaningful_modest : modest.Meaningful := by
  constructor <;> decide

theorem Limiter.new_modest (now : Instant) :
    Limiter.new .modest now = .ok (.start .modest now) :=
  new_eq_ok_iff.2 ⟨Limits.meaningful_modest, rfl⟩

/-- The longest span. A clock that is moved by it starts over and stands a nanosecond earlier. -/
def Span.longest : Span := ⟨18446744073709551615, 999999999, by decide⟩

end Floodgate
