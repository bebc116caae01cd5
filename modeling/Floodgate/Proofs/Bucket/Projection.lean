import Floodgate.Bucket
import Floodgate.Limits
import Floodgate.Proofs.Time.Seconds

/-!
# Projected balances

A bucket of a tier keeps its capacity and rate and a balance within the capacity. Its projection
at an instant is a clamped sum of ranks, so it stays within the same bounds, never falls as time
passes, and turns a full bucket into a new one.

## Main definitions

* `Serves` — a bucket of a tier with a balance within bounds
* `sumRank` — the rank of the balance together with the credit, before it is clamped

## Main results

* `Serves.projected_eq` — the projection as a rank
* `Serves.within_projected` — the projection is within the capacity at every instant
* `Serves.projected_self` — nothing is credited twice at one instant
* `Serves.isFullAt_mono` — a bucket that is full stays full as time passes
* `Serves.refill_eq_full` — refilled when full, a bucket is as good as new
-/

namespace Floodgate

open Binary64

/-- The capacity of a bucket as a whole number is exact. -/
theorem capacity_small (capacity : UInt32) : capacity.toNat < 2 ^ 53 :=
  capacity.toNat_lt.trans (by decide)

namespace Limits

variable {rate : Binary64}

theorem eq_ofRank_of_isRate (positive : isRate rate = true) :
    rate = ofRank false rate.rank ∧ rate.rank < 2047 * 2 ^ 52 := by
  rw [isRate, Bool.and_eq_true] at positive
  obtain ⟨finite, greater⟩ := positive
  cases rate with
  | nan => exact absurd finite (by decide)
  | infinite negative => exact absurd finite (by decide : ¬false = true)
  | finite negative r hr =>
    cases negative with
    | false => exact ⟨(ofRank_of_lt hr).symm, hr⟩
    | true =>
      have below : ¬(0 : ℤ) < -(r : ℤ) := by omega
      exact absurd (of_decide_eq_true greater) below

theorem toRat_pos_of_isRate (positive : isRate rate = true) : 0 < rate.toRat := by
  obtain ⟨eq_ofRank, finite⟩ := eq_ofRank_of_isRate positive
  rw [isRate, Bool.and_eq_true, eq_ofRank, zero_eq_ofRank, lt_ofRank (by decide),
    decide_eq_true_eq] at positive
  have unit : (0 : ℚ) < unitsPerOne := by exact_mod_cast unitsPerOne_pos
  have units := unitsAt_lt_unitsAt.2 positive.2
  rw [unitsAt_zero] at units
  rw [eq_ofRank, toRat_ofRank finite]
  exact div_pos (by exact_mod_cast units) unit

theorem isRate_iff : isRate rate = true ↔ rate.isFinite = true ∧ 0 < rate.toRat := by
  constructor
  · intro positive
    have finite : rate.isFinite = true := by
      rw [isRate, Bool.and_eq_true] at positive
      exact positive.1
    exact ⟨finite, toRat_pos_of_isRate positive⟩
  · rintro ⟨finite, pos⟩
    have unit : (0 : ℚ) < unitsPerOne := by exact_mod_cast unitsPerOne_pos
    have units : 0 < rate.units := by
      rw [toRat, div_pos_iff_of_pos_right unit] at pos
      exact_mod_cast pos
    rw [isRate, finite, Bool.true_and]
    cases rate with
    | nan => cases finite
    | infinite negative => cases finite
    | finite negative r hr =>
      cases negative with
      | true => exact absurd units (by simp [Binary64.units])
      | false =>
        have rank : unitsAt 0 < unitsAt r := Int.ofNat_lt.1 units
        rw [← ofRank_of_lt hr, zero_eq_ofRank, lt_ofRank (by decide)]
        exact decide_eq_true (unitsAt_lt_unitsAt.1 rank)

end Limits

namespace Bucket

/-- A bucket of a tier: its capacity and rate are those of the tier, which are meaningful, and
its balance is within the capacity. -/
structure Serves (capacity : UInt32) (rate : Binary64) (b : Bucket) : Prop where
  capacity_pos : 1 ≤ capacity.toNat
  isRate : Limits.isRate rate = true
  capacity_eq : b.capacity = capacity
  rate_eq : b.rate = rate
  tokens : b.tokens.Within capacity.toNat

/-- The rank of the credit up to `now`. -/
def creditRank (b : Bucket) (now : Instant) : ℕ :=
  nearestRank (unitsAt b.rate.rank * unitsAt (secondsRank (now.since b.lastRefill))) unitsPerOne

/-- The rank of the balance and the credit up to `now`, before the capacity is looked at. -/
def sumRank (b : Bucket) (now : Instant) : ℕ :=
  nearestRank (unitsAt b.tokens.rank + unitsAt (b.creditRank now)) 1

theorem lastRefill_take {b b' : Bucket} (taken : b.take? = some b') :
    b'.lastRefill = b.lastRefill := by
  obtain ⟨-, rfl⟩ := take?_eq_some_iff.1 taken
  rfl

theorem creditRank_le_creditRank (b : Bucket) {now later : Instant}
    (le : now.nanos.toNat ≤ later.nanos.toNat) : b.creditRank now ≤ b.creditRank later := by
  have seconds := secondsRank_le_secondsRank (Instant.since_le_since le b.lastRefill)
    (Instant.since_lt later b.lastRefill)
  refine nearestRank_le_nearestRank unitsPerOne_pos unitsPerOne_pos (Nat.mul_le_mul_right _ ?_)
  exact Nat.mul_le_mul_left _ (unitsAt_le_unitsAt.2 seconds)

theorem creditRank_self {b : Bucket} {now : Instant} (refilled : b.lastRefill = now) :
    b.creditRank now = 0 := by
  rw [creditRank, refilled, Instant.since_self, secondsRank_zero, unitsAt_zero, Nat.mul_zero,
    nearestRank_zero]

theorem credit_eq_ofRank {b : Bucket} (eq_ofRank : b.rate = ofRank false b.rate.rank)
    (finite : b.rate.rank < 2047 * 2 ^ 52) (now : Instant) :
    b.credit now = ofRank false (b.creditRank now) := by
  have seconds := secondsRank_lt (Instant.since_lt now b.lastRefill)
  rw [credit, secondsOfNanos_eq_ofRank, creditRank]
  conv_lhs => rw [eq_ofRank]
  exact ofRank_mul finite seconds

theorem sumRank_le_sumRank (b : Bucket) {now later : Instant}
    (le : now.nanos.toNat ≤ later.nanos.toNat) : b.sumRank now ≤ b.sumRank later := by
  have credit := unitsAt_le_unitsAt.2 (b.creditRank_le_creditRank le)
  refine nearestRank_le_nearestRank Nat.one_pos Nat.one_pos (Nat.mul_le_mul_right 1 ?_)
  exact Nat.add_le_add_left credit _

namespace Serves

variable {capacity : UInt32} {rate : Binary64} {b b' : Bucket}

theorem full (capacity_pos : 1 ≤ capacity.toNat) (isRate : Limits.isRate rate = true)
    (now : Instant) : (Bucket.full capacity rate now).Serves capacity rate :=
  ⟨capacity_pos, isRate, rfl, rfl, .ofNat (capacity_small capacity)⟩

theorem credit_eq (serves : b.Serves capacity rate) (now : Instant) :
    b.credit now = ofRank false (b.creditRank now) := by
  have positive := serves.isRate
  rw [← serves.rate_eq] at positive
  obtain ⟨eq_ofRank, finite⟩ := Limits.eq_ofRank_of_isRate positive
  exact credit_eq_ofRank eq_ofRank finite now

theorem limit_eq (serves : b.Serves capacity rate) :
    b.limit = ofRank false (wholeRank capacity.toNat) := by
  rw [limit, serves.capacity_eq, ofNat_eq_ofRank]

/-- The projection is the sum of the balance and the credit, held at the capacity. -/
theorem projected_eq (serves : b.Serves capacity rate) (now : Instant) :
    b.projected now = ofRank false (min (b.sumRank now) (wholeRank capacity.toNat)) := by
  rw [projected, serves.credit_eq, serves.limit_eq]
  conv_lhs => rw [serves.tokens.eq_ofRank]
  rw [ofRank_add, clamp_ofRank (wholeRank_lt (capacity_small capacity))]
  rfl

theorem rank_projected (serves : b.Serves capacity rate) (now : Instant) :
    (b.projected now).rank = min (b.sumRank now) (wholeRank capacity.toNat) := by
  rw [serves.projected_eq,
    rank_ofRank ((min_le_right _ _).trans_lt (wholeRank_lt (capacity_small capacity)))]

theorem within_projected (serves : b.Serves capacity rate) (now : Instant) :
    (b.projected now).Within capacity.toNat := by
  rw [serves.projected_eq]
  exact .of_rank (capacity_small capacity) (min_le_right _ _)

theorem refill (serves : b.Serves capacity rate) (now : Instant) :
    (b.refill now).Serves capacity rate :=
  ⟨serves.capacity_pos, serves.isRate, serves.capacity_eq, serves.rate_eq,
    serves.within_projected now⟩

theorem take (serves : b.Serves capacity rate) (taken : b.take? = some b') :
    b'.Serves capacity rate := by
  obtain ⟨whole, rfl⟩ := take?_eq_some_iff.1 taken
  exact ⟨serves.capacity_pos, serves.isRate, serves.capacity_eq, serves.rate_eq,
    serves.tokens.sub_one (capacity_small capacity) whole⟩

/-! ### Refills at one instant -/

/-- At the instant of the last refill there is nothing to credit. -/
theorem projected_self (serves : b.Serves capacity rate) {now : Instant}
    (refilled : b.lastRefill = now) : b.projected now = b.tokens := by
  have sum : b.sumRank now = b.tokens.rank := by
    rw [sumRank, creditRank_self refilled, unitsAt_zero, Nat.add_zero, nearestRank_unitsAt]
  rw [serves.projected_eq, sum, min_eq_left serves.tokens.rank_le, ← serves.tokens.eq_ofRank]

/-! ### Full buckets -/

theorem isFullAt_iff (serves : b.Serves capacity rate) (now : Instant) :
    b.isFullAt now = true ↔ wholeRank capacity.toNat ≤ b.sumRank now := by
  have finite := wholeRank_lt (capacity_small capacity)
  rw [isFullAt, serves.projected_eq, serves.limit_eq,
    le_ofRank ((min_le_right _ _).trans_lt finite), decide_eq_true_eq, le_min_iff]
  exact and_iff_left le_rfl

/-- A bucket that would be full stays so as time passes. -/
theorem isFullAt_mono (serves : b.Serves capacity rate) {now later : Instant}
    (le : now.nanos.toNat ≤ later.nanos.toNat) (isFull : b.isFullAt now = true) :
    b.isFullAt later = true := by
  rw [serves.isFullAt_iff] at isFull ⊢
  exact isFull.trans (b.sumRank_le_sumRank le)

theorem projected_of_isFullAt (serves : b.Serves capacity rate) {now : Instant}
    (isFull : b.isFullAt now = true) : b.projected now = ofNat capacity.toNat := by
  rw [serves.projected_eq, min_eq_right ((serves.isFullAt_iff now).1 isFull), ofNat_eq_ofRank]

/-- A bucket is full just when its projection is the capacity. -/
theorem isFullAt_iff_projected_eq (serves : b.Serves capacity rate) (now : Instant) :
    b.isFullAt now = true ↔ b.projected now = b.limit := by
  constructor
  · intro isFull
    rw [serves.projected_of_isFullAt isFull, limit, serves.capacity_eq]
  · intro atLimit
    have finite := wholeRank_lt (capacity_small capacity)
    rw [isFullAt, atLimit, serves.limit_eq, le_ofRank finite]
    exact decide_eq_true le_rfl

/-- Refilled when it is full, a bucket is the same as a new one. -/
theorem refill_eq_full (serves : b.Serves capacity rate) {now : Instant}
    (isFull : b.isFullAt now = true) : b.refill now = Bucket.full capacity rate now := by
  rw [Bucket.refill, Bucket.full, serves.projected_of_isFullAt isFull, serves.capacity_eq,
    serves.rate_eq]

end Serves

end Bucket

end Floodgate
