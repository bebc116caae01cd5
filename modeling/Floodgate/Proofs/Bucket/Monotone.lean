import Floodgate.Proofs.Binary64.Order
import Floodgate.Proofs.Bucket.Refills

/-!
# Projections are monotone

A projection is computed in five roundings: three for the seconds, one for the credit and one for
the sum, which is clamped in the end. None of them steps back, whatever the rate and the gap, so
later projections are not lower, and neither are those of a bucket that holds more. What a refill
leaves is not changed by projecting it at the same instant.

The balance may be any number, also one out of range; only negative infinity is left out, from
which a credit that is infinite itself would make NaN. No bucket comes to it.

## Main definitions

* `Bucket.Attained` — the buckets that refills and takes make of full ones

## Main results

* `Bucket.Attained.tokens_ne` — no such bucket is at negative infinity
* `Bucket.credit_le_credit` — later credits are not lower
* `Bucket.projected_le_projected` — projections are in the order of balances and credits
* `Bucket.projected_refill_self` — what a refill leaves
* `Bucket.projections_monotone` — all of it, for every bucket
-/

namespace Floodgate

open Binary64

namespace Binary64

variable {x : Binary64}

theorem zero_le_ofRank (r : ℕ) : zero.le (ofRank false r) = true :=
  le_iff_position.2 ⟨0, _, rfl, position_ofRank r, Int.natCast_nonneg _⟩

theorem ne_negative_infinity (nonneg : zero.le x = true) : x ≠ infinite true := by
  rintro rfl
  exact absurd nonneg (by decide)

/-- Only what is at least one has one taken from it, and that does not make it negative. -/
theorem zero_le_sub_one (whole : one.le x = true) : zero.le (x - one) = true := by
  obtain ⟨a, b, one_at, stands, le⟩ := le_iff_position.1 whole
  cases one_at
  cases x with
  | nan => cases stands
  | infinite negative =>
    cases negative with
    | true => exact absurd whole (by decide)
    | false => rfl
  | finite negative r hr =>
    cases negative <;> cases stands
    · have enough : 1023 * 2 ^ 52 ≤ r := by omega
      rw [← ofRank_of_lt hr, ofRank_sub_one hr enough]
      exact zero_le_ofRank _
    · omega

/-- A finite number that is not below zero has no sign, or is negative zero. -/
theorem eq_ofRank_or_negative_zero (finite : x.isFinite = true) (nonneg : zero.le x = true) :
    x = ofRank false x.rank ∧ x.rank < 2047 * 2 ^ 52 ∨ x = .finite true 0 zero_lt_infinity := by
  cases x with
  | nan | infinite => cases finite
  | finite negative r hr =>
    cases negative with
    | false => exact .inl ⟨(ofRank_of_lt hr).symm, hr⟩
    | true =>
      have below : (0 : ℤ) ≤ -(r : ℤ) := of_decide_eq_true nonneg
      obtain rfl : r = 0 := by omega
      exact .inr rfl

theorem rank_eq_zero {negative negative' : Bool} {r : ℕ}
    (eq_zero : ofRank negative r = .finite negative' 0 zero_lt_infinity) :
    negative = negative' ∧ r = 0 := by
  unfold ofRank at eq_zero
  split_ifs at eq_zero
  cases eq_zero
  exact ⟨rfl, rfl⟩

/-- A sum with a number without a sign is not negative zero. -/
theorem add_ofRank_ne (x : Binary64) (r : ℕ) :
    x + ofRank false r ≠ .finite true 0 zero_lt_infinity := by
  cases x with
  | nan => rintro ⟨⟩
  | infinite s =>
    unfold ofRank
    split_ifs
    · rintro ⟨⟩
    · cases s <;> rintro ⟨⟩
  | finite s q hq =>
    unfold ofRank
    split_ifs with finite
    · intro eq_zero
      change add _ _ = _ at eq_zero
      simp only [add, Bool.and_false] at eq_zero
      split_ifs at eq_zero with cancel
      · cases eq_zero
      · -- What does not cancel is at least one unit.
        have least := (rank_eq_zero eq_zero).2
        have unit : 1 ≤ nearestRank ((Binary64.finite s q hq).units +
            (Binary64.finite false r finite).units).natAbs 1 :=
          le_nearestRank Nat.one_pos (by rw [unitsAt_of_lt (by decide)]; omega)
        omega
    · rintro ⟨⟩

theorem nan_clamp (low high : Binary64) : nan.clamp low high = nan := by
  simp [clamp, lt, position]

end Binary64

namespace Bucket

/-- A full bucket of any capacity and rate, and what refills and takes make of it. -/
inductive Attained : Bucket → Prop
  | full (capacity : UInt32) (rate : Binary64) (now : Instant) :
      Attained (Bucket.full capacity rate now)
  | refill {b : Bucket} (now : Instant) (attained : Attained b) : Attained (b.refill now)
  | take {b b' : Bucket} (attained : Attained b) (taken : b.take? = some b') : Attained b'

theorem zero_le_limit (b : Bucket) : zero.le b.limit = true := zero_le_ofRank _

/-- A projection is within the bounds unless it is NaN. -/
theorem projected_bounds {b : Bucket} {now : Instant} (number : b.tokens + b.credit now ≠ .nan) :
    zero.le (b.projected now) = true ∧ (b.projected now).le b.limit = true :=
  clamp_bounds b.zero_le_limit number

namespace Attained

variable {b : Bucket}

theorem tokens_eq_nan_or (attained : b.Attained) : b.tokens = .nan ∨ zero.le b.tokens = true := by
  induction attained with
  | full => exact .inr (zero_le_ofRank _)
  | @refill b now attained ih =>
    by_cases number : b.tokens + b.credit now = .nan
    · left
      rw [tokens_refill, projected, number, nan_clamp]
    · exact .inr (projected_bounds number).1
  | take attained taken ih =>
    obtain ⟨whole, rfl⟩ := take?_eq_some_iff.1 taken
    exact .inr (zero_le_sub_one whole)

/-- No bucket comes to negative infinity. -/
theorem tokens_ne (attained : b.Attained) : b.tokens ≠ infinite true := by
  rcases attained.tokens_eq_nan_or with nan | nonneg
  · rw [nan]
    rintro ⟨⟩
  · exact ne_negative_infinity nonneg

end Attained

/-- Projections are in the order of the balances and the credits, as long as there are sums. -/
theorem projected_le_projected {b b' : Bucket} {now later : Instant}
    (capacity : b'.capacity = b.capacity) (tokens : b.tokens.le b'.tokens = true)
    (credit : (b.credit now).le (b'.credit later) = true)
    (number : b.tokens + b.credit now ≠ .nan) (number' : b'.tokens + b'.credit later ≠ .nan) :
    (b.projected now).le (b'.projected later) = true := by
  have limit : b'.limit = b.limit := by rw [Bucket.limit, capacity, Bucket.limit]
  rw [projected, projected, limit]
  exact clamp_le_clamp b.zero_le_limit (add_mono tokens credit number number')

/-- At a rate of negative zero all credits are negative zero. -/
theorem credit_of_negative_zero {b : Bucket} (rate : b.rate = .finite true 0 zero_lt_infinity)
    (now : Instant) : b.credit now = .finite true 0 zero_lt_infinity := by
  have seconds := secondsRank_lt (Instant.since_lt now b.lastRefill)
  rw [credit, rate, secondsOfNanos_eq_ofRank, ofRank_of_lt seconds]
  change mul _ _ = _
  rw [mul, ofUnits, unitsAt_zero, Nat.zero_mul, nearestRank_zero, Bool.xor_false]
  rfl

/-- Nothing but a credit with a sign leaves negative zero. -/
theorem projected_ne {b : Bucket} (eq_ofRank : b.rate = ofRank false b.rate.rank)
    (rank : b.rate.rank < 2047 * 2 ^ 52) (now : Instant) :
    b.projected now ≠ .finite true 0 zero_lt_infinity := by
  rw [projected, clamp, credit_eq_ofRank eq_ofRank rank]
  split_ifs
  · decide
  · intro eq_zero
    exact absurd (rank_eq_zero eq_zero).1 (by decide)
  · exact add_ofRank_ne _ _

section Rate

variable {b : Bucket} (finite : b.rate.isFinite = true) (nonneg : zero.le b.rate = true)

include finite nonneg

/-- Time that passes is worth more, or nothing. -/
theorem credit_le_credit {now later : Instant} (le : now.nanos.toNat ≤ later.nanos.toNat) :
    (b.credit now).le (b.credit later) = true := by
  rcases eq_ofRank_or_negative_zero finite nonneg with ⟨eq_ofRank, rank⟩ | negative
  · have ranks := b.creditRank_le_creditRank le
    rw [credit_eq_ofRank eq_ofRank rank, credit_eq_ofRank eq_ofRank rank]
    exact le_iff_position.2 ⟨_, _, position_ofRank _, position_ofRank _, by omega⟩
  · rw [credit_of_negative_zero negative, credit_of_negative_zero negative]
    rfl

theorem zero_le_credit (now : Instant) : zero.le (b.credit now) = true := by
  rcases eq_ofRank_or_negative_zero finite nonneg with ⟨eq_ofRank, rank⟩ | negative
  · rw [credit_eq_ofRank eq_ofRank rank]
    exact zero_le_ofRank _
  · rw [credit_of_negative_zero negative]
    rfl

/-- There is a sum of the credit and any balance that is a number, but for negative infinity. -/
theorem add_credit_ne_nan (number : b.tokens ≠ .nan) (ne : b.tokens ≠ infinite true)
    (now : Instant) : b.tokens + b.credit now ≠ .nan :=
  have credit := zero_le_credit finite nonneg now
  add_ne_nan number (ne_nan_of_le credit).2 ne (ne_negative_infinity credit)

/-- What a refill leaves is what a projection at the same instant gives. -/
theorem projected_refill_self {now : Instant} (number : b.tokens + b.credit now ≠ .nan) :
    (b.refill now).projected now = b.projected now := by
  have bounds := projected_bounds number
  -- Nothing is credited between one instant and the same, and zero adds nothing to the balance
  -- but the sign of negative zero.
  have sum : b.projected now + (b.refill now).credit now = b.projected now := by
    rcases eq_ofRank_or_negative_zero finite nonneg with ⟨eq_ofRank, rank⟩ | negative
    · have credit : (b.refill now).credit now = ofRank false 0 := by
        rw [credit_eq_ofRank (b := b.refill now) eq_ofRank rank,
          creditRank_self (lastRefill_refill b now)]
      rw [credit]
      obtain ⟨unsigned, -⟩ | negative := tokens_cases (b := b.refill now) bounds.1 bounds.2
      · rw [← tokens_refill, unsigned, ofRank_add, unitsAt_zero, Nat.add_zero,
          nearestRank_unitsAt]
      · exact absurd negative (projected_ne eq_ofRank rank now)
    · rw [credit_of_negative_zero (b := b.refill now) negative]
      obtain ⟨unsigned, -⟩ | negative := tokens_cases (b := b.refill now) bounds.1 bounds.2
      · rw [← tokens_refill, unsigned, Binary64.add_swap, add_of_negative_zero, ofRank_add,
          unitsAt_zero, Nat.zero_add, nearestRank_unitsAt]
      · rw [← tokens_refill, negative]
        rfl
  change (b.projected now + (b.refill now).credit now).clamp zero b.limit = _
  rw [sum]
  exact clamp_eq_self bounds.1 bounds.2

end Rate

/-- For every bucket with a rate that is finite and not negative, projections do not go down as
time passes, so a bucket that is full stays full; a higher balance has no lower projection; and
what a refill leaves is projected to itself. -/
theorem projections_monotone {b : Bucket} (finite : b.rate.isFinite = true)
    (nonneg : zero.le b.rate = true) (number : b.tokens ≠ .nan)
    (held : b.Attained ∨ b.tokens ≠ infinite true) :
    (∀ now later : Instant, now.nanos.toNat ≤ later.nanos.toNat →
      (b.projected now).le (b.projected later) = true ∧
        (b.isFullAt now = true → b.isFullAt later = true)) ∧
    (∀ b' : Bucket, b'.capacity = b.capacity → b'.rate = b.rate → b'.lastRefill = b.lastRefill →
      b.tokens.le b'.tokens = true → ∀ now, (b.projected now).le (b'.projected now) = true) ∧
    ∀ now, (b.refill now).projected now = b.projected now := by
  have ne : b.tokens ≠ infinite true := held.elim Attained.tokens_ne id
  have sum := add_credit_ne_nan finite nonneg number ne
  have later_le {now later : Instant} (le : now.nanos.toNat ≤ later.nanos.toNat) :
      (b.projected now).le (b.projected later) = true :=
    projected_le_projected rfl (le_self number) (credit_le_credit finite nonneg le) (sum now)
      (sum later)
  refine ⟨fun now later le => ⟨later_le le, fun isFull => le_of_le_le isFull (later_le le)⟩, ?_,
    fun now => projected_refill_self finite nonneg (sum now)⟩
  intro b' capacity rate lastRefill more now
  have credit : b'.credit now = b.credit now := by
    rw [Bucket.credit, rate, lastRefill, Bucket.credit]
  have number' := (ne_nan_of_le more).2
  have sum' := add_credit_ne_nan (rate ▸ finite) (rate ▸ nonneg) number'
    (ne_negative_infinity_of_le more ne) now
  refine projected_le_projected capacity more ?_ (sum now) sum'
  rw [credit]
  exact le_self (ne_nan_of_le (zero_le_credit finite nonneg now)).2

/-- The carry into the first second is a step up, and the balance refilled there is kept. -/
theorem carried_second :
    let b : Bucket := ⟨1, .ofRatio 3 10, .zero, .base⟩
    let first : Instant := ⟨1000000000⟩
    b.projected ⟨999999999⟩ ≠ b.projected first ∧
      (b.projected ⟨999999999⟩).le (b.projected first) = true ∧
      (b.refill first).projected first = b.projected first := by
  intro b first
  have held : b.Attained := .take (.full 1 (.ofRatio 3 10) .base) (by decide +kernel)
  obtain ⟨forward, -, again⟩ := projections_monotone (b := b) (by decide +kernel)
    (by decide +kernel) (by decide) (.inl held)
  exact ⟨by decide +kernel, (forward ⟨999999999⟩ first (by decide)).1, again first⟩

end Bucket

end Floodgate
