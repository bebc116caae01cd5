import Floodgate.Proofs.Bucket.Refills

/-!
# Refills that go back

A refill at an earlier instant credits nothing, but it is counted from ever after: the time gone
back is credited once more by the next refill. Compared with a bucket that skips the instants
earlier than one before them, a bucket that is refilled at all of them never holds less, and more
by no more than the rate allows for the time gone back.

## Main definitions

* `kept` — the instants that are not earlier than one before them
* `rewound` — the nanoseconds gone back from one instant to the next
* `Bucket.Ahead` — how a bucket refilled at every instant compares with one that skips some

## Main results

* `kept_eq_self_iff` — instants are skipped unless time does not go back
* `Bucket.Serves.refill_of_le` — a refill that goes back moves the instant and nothing else
* `Bucket.Ahead.refills` — the comparison over all refills
* `Bucket.refills_setbacks` — what refills that go back do to a bucket
-/

namespace Floodgate

open Binary64

/-! ### Instants in any order -/

/-- The instants that are not earlier than `last` nor than one before them. -/
def kept (last : Instant) : List Instant → List Instant
  | [] => []
  | t :: ts =>
    if last.nanos.toNat ≤ t.nanos.toNat then t :: kept t ts else kept last ts

/-- The nanoseconds gone back from `last` on, from one instant to the next. -/
def rewound (last : Instant) : List Instant → ℕ
  | [] => 0
  | t :: ts => last.since t + rewound t ts

variable {last t : Instant} {ts : List Instant}

theorem kept_of_le (le : last.nanos.toNat ≤ t.nanos.toNat) :
    kept last (t :: ts) = t :: kept t ts := if_pos le

theorem kept_of_lt (lt : t.nanos.toNat < last.nanos.toNat) :
    kept last (t :: ts) = kept last ts := if_neg (Nat.not_le.2 lt)

theorem kept_eq_self (forward : (last :: ts).Pairwise fun s t => s.nanos.toNat ≤ t.nanos.toNat) :
    kept last ts = ts := by
  induction ts generalizing last with
  | nil => rfl
  | cons t ts ih =>
    obtain ⟨ahead, forward⟩ := List.pairwise_cons.1 forward
    rw [kept_of_le (ahead t (by simp)), ih forward]

namespace Bucket

variable {capacity : UInt32} {rate : Binary64} {b often rarely : Bucket} {now later : Instant}
  {extra : ℚ}

/-! ### Last refills -/

theorem lastRefill_refills_mem (b : Bucket) (ts : List Instant) :
    (b.refills ts).lastRefill ∈ b.lastRefill :: ts := by
  induction ts generalizing b with
  | nil => exact List.mem_cons_self
  | cons t ts ih => exact List.mem_cons_of_mem _ (ih (b.refill t))

theorem lastRefill_kept_mem (b : Bucket) (ts : List Instant) :
    (b.refills (kept b.lastRefill ts)).lastRefill ∈ b.lastRefill :: ts := by
  induction ts generalizing b with
  | nil => exact List.mem_cons_self
  | cons t ts ih =>
    rcases lt_or_ge t.nanos.toNat b.lastRefill.nanos.toNat with lt | le
    · rw [kept_of_lt lt]
      have others := ih b
      simp only [List.mem_cons] at others ⊢
      exact others.imp_right .inr
    · rw [kept_of_le le]
      exact List.mem_cons_of_mem _ (ih (b.refill t))

/-- Without the instants that are skipped, the last refill is at the latest instant of all. -/
theorem le_lastRefill_kept (b : Bucket) (ts : List Instant) :
    ∀ s ∈ b.lastRefill :: ts,
      s.nanos.toNat ≤ (b.refills (kept b.lastRefill ts)).lastRefill.nanos.toNat := by
  induction ts generalizing b with
  | nil => simp [kept]
  | cons t ts ih =>
    rcases lt_or_ge t.nanos.toNat b.lastRefill.nanos.toNat with lt | le
    · rw [kept_of_lt lt]
      have others := ih b
      have first := others b.lastRefill (by simp)
      simp only [List.mem_cons] at others ⊢
      rintro s (rfl | rfl | mem)
      · exact first
      · exact lt.le.trans first
      · exact others s (.inr mem)
    · rw [kept_of_le le]
      have others := ih (b.refill t)
      have first := others t (by simp)
      simp only [List.mem_cons, lastRefill_refill] at others ⊢
      rintro s (rfl | rfl | mem)
      · exact le.trans first
      · exact first
      · exact others s (.inr mem)

/-- The last refills agree when the last of all instants is the latest. -/
theorem lastRefill_kept_eq_iff (b : Bucket) (ts : List Instant) :
    (b.refills ts).lastRefill = (b.refills (kept b.lastRefill ts)).lastRefill ↔
      ∀ s ∈ b.lastRefill :: ts, s.nanos.toNat ≤ (b.refills ts).lastRefill.nanos.toNat := by
  constructor
  · intro same
    rw [same]
    exact b.le_lastRefill_kept ts
  · intro latest
    have upper := latest _ (b.lastRefill_kept_mem ts)
    have lower := b.le_lastRefill_kept ts _ (b.lastRefill_refills_mem ts)
    exact congrArg Instant.mk (UInt64.toNat.inj (lower.antisymm upper))

/-- Nothing is skipped on the way exactly when time does not go back. -/
theorem refills_kept_eq_iff (b : Bucket) (ts : List Instant) :
    (∀ ps, ps <+: ts → b.refills ps = b.refills (kept b.lastRefill ps)) ↔
      (b.lastRefill :: ts).Pairwise fun s t => s.nanos.toNat ≤ t.nanos.toNat := by
  constructor
  · -- From the end: that the refills agree at an instant makes it the latest of those so far.
    intro same
    induction ts using List.reverseRecOn with
    | nil => exact List.pairwise_singleton _ _
    | append_singleton ts t ih =>
      have before := ih fun ps init => same ps (init.trans (List.prefix_append ts [t]))
      have last : (b.refills (ts ++ [t])).lastRefill = t := by simp [refills]
      have latest := (b.lastRefill_kept_eq_iff (ts ++ [t])).1 (by rw [← same _ List.prefix_rfl])
      rw [last] at latest
      rw [← List.cons_append, List.pairwise_append]
      refine ⟨before, List.pairwise_singleton _ _, fun s mem u mem' => ?_⟩
      rw [List.mem_singleton] at mem'
      rw [mem']
      exact latest s (List.mem_append_left [t] mem)
  · intro forward ps init
    have ahead : (b.lastRefill :: ps).Sublist (b.lastRefill :: ts) := init.sublist.cons_cons _
    rw [kept_eq_self (forward.sublist ahead)]

/-! ### One refill -/

namespace Serves

/-- A refill that goes back moves the instant that is counted from, and nothing else. -/
theorem refill_of_le (serves : b.Serves capacity rate)
    (le : now.nanos.toNat ≤ b.lastRefill.nanos.toNat) :
    b.refill now = { b with lastRefill := now } := by
  have since : now.since b.lastRefill = b.lastRefill.since b.lastRefill := by
    rw [Instant.since_self]
    exact Nat.sub_eq_zero_of_le le
  have projected : b.projected now = b.tokens := by
    rw [← serves.projected_self rfl, Bucket.projected, credit, since]
    rfl
  rw [Bucket.refill, projected]

/-- A refill takes nothing away. -/
theorem rank_tokens_le (serves : b.Serves capacity rate) (now : Instant) :
    b.tokens.rank ≤ (b.projected now).rank := by
  have sum : b.tokens.rank ≤ b.sumRank now := le_nearestRank Nat.one_pos (by omega)
  rw [serves.rank_projected]
  exact le_min sum serves.tokens.rank_le

/-- The balance counts at every later instant. -/
theorem tokens_le_level (serves : b.Serves capacity rate) (now : Instant) :
    b.tokens.toRat ≤ b.level now := by
  have full := serves.tokens.toRat_le (capacity_small capacity)
  have gained : 0 ≤ b.rate.toRat * ((now.since b.lastRefill : ℕ) / nanosPerSecond : ℚ) :=
    mul_nonneg serves.toRat_rate_nonneg (div_nonneg (Nat.cast_nonneg _) (Nat.cast_nonneg _))
  rw [level, serves.capacity_eq]
  exact le_min full (le_add_of_nonneg_right gained)

/-- Going back raises later levels by what the rate gives for the time gone back. -/
theorem level_refill_of_le (serves : b.Serves capacity rate)
    (le : now.nanos.toNat ≤ b.lastRefill.nanos.toNat) (later : Instant) :
    (b.refill now).level later ≤
      b.level later + rate.toRat * ((b.lastRefill.since now : ℕ) / nanosPerSecond) := by
  have rate_nonneg := serves.toRat_rate_nonneg
  -- Waiting since the earlier instant takes no longer than going back and waiting since the last
  -- refill.
  have time : ((later.since now : ℕ) : ℚ) / nanosPerSecond ≤
      (b.lastRefill.since now : ℕ) / nanosPerSecond +
        (later.since b.lastRefill : ℕ) / nanosPerSecond := by
    rw [← add_div]
    apply div_le_div_of_nonneg_right _ (Nat.cast_nonneg _)
    exact_mod_cast later.since_le_add b.lastRefill now
  have gained := mul_le_mul_of_nonneg_left time rate_nonneg
  have again : 0 ≤ b.rate.toRat * (((b.lastRefill.since now : ℕ) : ℚ) / nanosPerSecond) :=
    mul_nonneg rate_nonneg (div_nonneg (Nat.cast_nonneg _) (Nat.cast_nonneg _))
  rw [serves.refill_of_le le, ← serves.rate_eq, level, level, ← min_add_add_right]
  apply min_le_min <;> dsimp only <;> linarith

/-- A refill at any instant raises later levels by the slack, and by what the rate gives for the
time gone back. -/
theorem level_refill_le_add (serves : b.Serves capacity rate)
    (le : now.nanos.toNat ≤ later.nanos.toNat) :
    (b.refill now).level later ≤ b.level later + slack capacity +
      rate.toRat * ((b.lastRefill.since now : ℕ) / nanosPerSecond) := by
  rcases le_total now.nanos.toNat b.lastRefill.nanos.toNat with back | forward
  · have raised := serves.level_refill_of_le back later
    linarith [slack_nonneg capacity]
  · have rounded := abs_le.1 (serves.abs_level_refill_sub_le forward le)
    have rate_nonneg := serves.toRat_rate_nonneg
    rw [serves.rate_eq] at rate_nonneg
    have again : 0 ≤ rate.toRat * (((b.lastRefill.since now : ℕ) : ℚ) / nanosPerSecond) :=
      mul_nonneg rate_nonneg (div_nonneg (Nat.cast_nonneg _) (Nat.cast_nonneg _))
    linarith

/-- Of two buckets the one that holds more and counts from an earlier instant has the higher
projection. -/
theorem rank_projected_le (serves : rarely.Serves capacity rate)
    (serves' : often.Serves capacity rate) (tokens : rarely.tokens.rank ≤ often.tokens.rank)
    (earlier : often.lastRefill.nanos.toNat ≤ rarely.lastRefill.nanos.toNat) (now : Instant) :
    (rarely.projected now).rank ≤ (often.projected now).rank := by
  have since : now.since rarely.lastRefill ≤ now.since often.lastRefill :=
    Nat.sub_le_sub_left earlier _
  have seconds := secondsRank_le_secondsRank since (Instant.since_lt now often.lastRefill)
  have credit : rarely.creditRank now ≤ often.creditRank now := by
    refine nearestRank_le_nearestRank unitsPerOne_pos unitsPerOne_pos (Nat.mul_le_mul_right _ ?_)
    rw [serves.rate_eq, serves'.rate_eq]
    exact Nat.mul_le_mul_left _ (unitsAt_le_unitsAt.2 seconds)
  have sum : rarely.sumRank now ≤ often.sumRank now := by
    refine nearestRank_le_nearestRank Nat.one_pos Nat.one_pos (Nat.mul_le_mul_right 1 ?_)
    exact Nat.add_le_add (unitsAt_le_unitsAt.2 tokens) (unitsAt_le_unitsAt.2 credit)
  rw [serves.rank_projected, serves'.rank_projected]
  exact min_le_min_right _ sum

end Serves

/-! ### All refills -/

/-- How a bucket that is refilled at every instant compares with one that skips the instants
earlier than one before them: it counts from no later instant, holds no less, and its level is
higher by no more than some extra. -/
structure Ahead (extra : ℚ) (often rarely : Bucket) : Prop where
  earlier : often.lastRefill.nanos.toNat ≤ rarely.lastRefill.nanos.toNat
  tokens_le : rarely.tokens.rank ≤ often.tokens.rank
  level_le : ∀ later : Instant, rarely.lastRefill.nanos.toNat ≤ later.nanos.toNat →
    often.level later ≤ rarely.level later + extra

namespace Ahead

theorem mono (ahead : Ahead extra often rarely) {more : ℚ} (le : extra ≤ more) :
    Ahead more often rarely where
  earlier := ahead.earlier
  tokens_le := ahead.tokens_le
  level_le later passed := (ahead.level_le later passed).trans (add_le_add_right le _)

theorem self (b : Bucket) : Ahead 0 b b where
  earlier := le_rfl
  tokens_le := le_rfl
  level_le _ _ := (add_zero _).ge

/-- The balances are as far apart as the levels. -/
theorem toRat_le (ahead : Ahead extra often rarely) (serves : often.Serves capacity rate)
    (serves' : rarely.Serves capacity rate) :
    often.tokens.toRat ≤ rarely.tokens.toRat + extra := by
  rw [← serves'.level_eq_tokens rfl]
  exact (serves.tokens_le_level _).trans (ahead.level_le _ le_rfl)

variable (ahead : Ahead extra often rarely) (serves : often.Serves capacity rate)

include ahead serves

/-- An instant that is skipped. -/
theorem refill_skipped (lt : now.nanos.toNat < rarely.lastRefill.nanos.toNat) :
    Ahead (extra + slack capacity +
        rate.toRat * ((often.lastRefill.since now : ℕ) / nanosPerSecond))
      (often.refill now) rarely where
  earlier := lt.le
  tokens_le := ahead.tokens_le.trans (serves.rank_tokens_le now)
  level_le later passed := by
    have raised := serves.level_refill_le_add (lt.le.trans passed)
    have before := ahead.level_le later passed
    linarith

variable (serves' : rarely.Serves capacity rate)

include serves'

/-- An instant at which both are refilled. -/
theorem refill (le : rarely.lastRefill.nanos.toNat ≤ now.nanos.toNat) :
    Ahead (extra + 2 * slack capacity) (often.refill now) (rarely.refill now) where
  earlier := le_rfl
  tokens_le := serves'.rank_projected_le serves ahead.tokens_le ahead.earlier now
  level_le later passed := by
    have upper := abs_le.1 (serves.abs_level_refill_sub_le (ahead.earlier.trans le) passed)
    have lower := abs_le.1 (serves'.abs_level_refill_sub_le le passed)
    have before := ahead.level_le later (le.trans passed)
    linarith

/-- At most the time gone back is credited again. -/
theorem refills (ts : List Instant) :
    Ahead (extra + 2 * ts.length * slack capacity +
        rate.toRat * ((rewound often.lastRefill ts : ℕ) / nanosPerSecond))
      (often.refills ts) (rarely.refills (kept rarely.lastRefill ts)) := by
  have slack_nonneg := slack_nonneg capacity
  induction ts generalizing often rarely extra with
  | nil => exact ahead.mono (by simp [rewound])
  | cons t ts ih =>
    have again : rate.toRat * ((rewound often.lastRefill (t :: ts) : ℕ) / nanosPerSecond : ℚ) =
        rate.toRat * ((often.lastRefill.since t : ℕ) / nanosPerSecond) +
          rate.toRat * ((rewound t ts : ℕ) / nanosPerSecond) := by
      rw [rewound, Nat.cast_add, add_div, mul_add]
    rw [again, List.length_cons]
    push_cast
    -- The bucket that skips decides. A skipped instant may be one to which the other bucket goes
    -- forward, which then only costs the slack.
    rcases lt_or_ge t.nanos.toNat rarely.lastRefill.nanos.toNat with lt | le
    · have others := ih (ahead.refill_skipped serves lt) (serves.refill t) serves'
      rw [kept_of_lt lt]
      refine others.mono ?_
      rw [lastRefill_refill]
      linarith
    · have others := ih (ahead.refill serves serves' le) (serves.refill t) (serves'.refill t)
      have since : often.lastRefill.since t = 0 := Nat.sub_eq_zero_of_le (ahead.earlier.trans le)
      rw [kept_of_le le, since]
      refine others.mono ?_
      rw [lastRefill_refill, Nat.cast_zero, zero_div, mul_zero]
      linarith

end Ahead

/-! ### Any bucket -/

section Range

variable {b : Bucket} (isRate : Limits.isRate b.rate = true)
  (capacity_pos : 1 ≤ b.capacity.toNat) (nonneg : zero.le b.tokens = true)
  (fits : b.tokens.le b.limit = true)

include isRate capacity_pos nonneg fits

/-- Without the sign of zero, refills leave a balance at the same place. -/
theorem refills_unsigned (ts : List Instant) :
    (b.unsigned.refills ts).tokens.position = (b.refills ts).tokens.position ∧
      (b.unsigned.refills ts).tokens.toRat = (b.refills ts).tokens.toRat := by
  cases ts with
  | cons t ts =>
    rw [refills_cons, refill_unsigned isRate capacity_pos nonneg fits]
    exact ⟨rfl, rfl⟩
  | nil =>
    obtain ⟨eq_ofRank, -⟩ | negative := tokens_cases nonneg fits
    · rw [unsigned, ← eq_ofRank]
      exact ⟨rfl, rfl⟩
    · have zero_eq : b.unsigned.tokens = zero := by
        rw [unsigned, negative]
        exact zero_eq_ofRank.symm
      have toRat_negative : (finite true 0 zero_lt_infinity).toRat = zero.toRat := by
        change ((-(unitsAt 0 : ℤ) : ℤ) : ℚ) / unitsPerOne = ((unitsAt 0 : ℤ) : ℚ) / unitsPerOne
        rw [unitsAt_zero, Nat.cast_zero, neg_zero]
      rw [refills_nil, refills_nil, zero_eq, negative, toRat_negative]
      exact ⟨rfl, rfl⟩

/-- A refill that goes back has the time gone back credited once more by the next refill. -/
theorem refill_refill_of_le {back now : Instant}
    (le : back.nanos.toNat ≤ b.lastRefill.nanos.toNat) :
    (b.refill back).refill now = { b with lastRefill := back }.refill now := by
  have serves := serves_unsigned isRate capacity_pos nonneg fits
  rw [← refill_unsigned isRate capacity_pos nonneg fits, serves.refill_of_le le]
  exact refill_unsigned (b := { b with lastRefill := back }) isRate capacity_pos nonneg fits now

/-- Refilled at any instants, a bucket is the same at every step as one that skips those earlier
than one before them exactly when time does not go back. Else it never holds less, and more by what
the rate gives for the time gone back and a slack for each refill of either at most; each refill
that goes back is a change of the instant counted from. -/
theorem refills_setbacks (ts : List Instant) :
    let often := b.refills ts
    let rarely := b.refills (kept b.lastRefill ts)
    ((∀ ps, ps <+: ts → b.refills ps = b.refills (kept b.lastRefill ps)) ↔
      (b.lastRefill :: ts).Pairwise fun s t => s.nanos.toNat ≤ t.nanos.toNat) ∧
    (often.lastRefill = rarely.lastRefill ↔
      ∀ s ∈ b.lastRefill :: ts, s.nanos.toNat ≤ often.lastRefill.nanos.toNat) ∧
    rarely.tokens.le often.tokens = true ∧
    often.tokens.toRat ≤ rarely.tokens.toRat + 2 * ts.length * (b.capacity.toNat / 2 ^ 50) +
      b.rate.toRat * ((rewound b.lastRefill ts : ℕ) / nanosPerSecond) ∧
    ∀ back now : Instant, back.nanos.toNat ≤ b.lastRefill.nanos.toNat →
      (b.refill back).refill now = { b with lastRefill := back }.refill now := by
  intro often rarely
  have serves := serves_unsigned isRate capacity_pos nonneg fits
  have unsigned := refills_unsigned isRate capacity_pos nonneg fits
  have ahead := (Ahead.self b.unsigned).refills serves serves ts
  have small := capacity_small b.capacity
  have serves_often : (b.unsigned.refills ts).Serves b.capacity b.rate := serves.refills ts
  have serves_rarely : (b.unsigned.refills (kept b.lastRefill ts)).Serves b.capacity b.rate :=
    serves.refills _
  refine ⟨b.refills_kept_eq_iff ts, b.lastRefill_kept_eq_iff ts, ?_, ?_,
    fun back now => refill_refill_of_le isRate capacity_pos nonneg fits⟩
  · rw [le, ← (unsigned ts).1, ← (unsigned _).1, ← le, serves_rarely.tokens.eq_ofRank,
      serves_often.tokens.eq_ofRank, le_ofRank (serves_often.tokens.rank_lt small)]
    exact decide_eq_true ahead.tokens_le
  · have bound := ahead.toRat_le serves_often serves_rarely
    rw [(unsigned _).2, (unsigned _).2, zero_add, ← add_assoc] at bound
    exact bound

end Range

/-- Two seconds back and forth again credit two tokens that one bucket has never waited for. -/
theorem credited_again :
    let b : Bucket := ⟨5, .one, .ofNat 2, ⟨2000000000⟩⟩
    let ts : List Instant := [⟨0⟩, ⟨2000000000⟩]
    Limits.isRate b.rate = true ∧ 1 ≤ b.capacity.toNat ∧ zero.le b.tokens = true ∧
      b.tokens.le b.limit = true ∧ kept b.lastRefill ts = [⟨2000000000⟩] ∧
      (b.refills ts).tokens = .ofNat 4 ∧ (b.refills (kept b.lastRefill ts)).tokens = .ofNat 2 ∧
      (b.refills ts).tokens ≠ (b.refills (kept b.lastRefill ts)).tokens := by
  decide +kernel

/-- A second and a half gone back is worth no more than that at one token each second. -/
theorem rewound_refills :
    let b : Bucket := ⟨5, .one, .ofNat 2, ⟨2000000000⟩⟩
    let ts : List Instant := [⟨1000000000⟩, ⟨2500000000⟩, ⟨2000000000⟩]
    let rarely := b.refills (kept b.lastRefill ts)
    rewound b.lastRefill ts = 1500000000 ∧ (b.refills ts).lastRefill ≠ rarely.lastRefill ∧
      rarely.tokens.le (b.refills ts).tokens = true ∧
      (b.refills ts).tokens.toRat ≤
        rarely.tokens.toRat + 2 * ts.length * (b.capacity.toNat / 2 ^ 50) +
          b.rate.toRat * ((rewound b.lastRefill ts : ℕ) / nanosPerSecond) := by
  intro b ts rarely
  obtain ⟨-, last, less, more, -⟩ := refills_setbacks (b := b) (by decide +kernel)
    (by decide +kernel) (by decide +kernel) (by decide +kernel) ts
  refine ⟨by decide, fun same => ?_, less, more⟩
  exact absurd (last.1 same ⟨2500000000⟩ (by decide)) (by decide)

end Bucket

end Floodgate
