import Floodgate.Proofs.Bucket.Projection

/-!
# Exact levels

The level of a bucket is what it would hold if nothing were ever rounded. A projection differs from
the level by a `2 ^ 50`th of the capacity at most, and while the clock is moved the level rises by
no more than the rate allows.

## Main definitions

* `Bucket.level` — the exact balance at an instant, held at the capacity
* `Bucket.slack` — what rounding may add to a balance in one refill, or take from it

## Main results

* `Serves.toRat_projected_le_level`, `Serves.level_le_toRat_projected` — the error of one projection
* `Serves.capacity_le_level_of_isFullAt` — what counts as full is full but for the slack
* `Serves.le_toRat_projected`, `Serves.isFullAt_of_credit` — how much time brings some tokens, and
  how much fills a bucket
* `Serves.level_later_le` — how far the level rises from one instant to another
-/

namespace Floodgate

open Binary64

namespace Bucket

/-- The exact balance at an instant: the recorded balance and the credit of the time since the
last refill, held at the capacity. -/
def level (b : Bucket) (now : Instant) : ℚ :=
  min (b.capacity.toNat : ℚ)
    (b.tokens.toRat + b.rate.toRat * ((now.since b.lastRefill : ℕ) / nanosPerSecond))

/-- What rounding may add to a balance in one refill, or take from it. -/
def slack (capacity : UInt32) : ℚ := capacity.toNat / 2 ^ 50

theorem slack_nonneg (capacity : UInt32) : 0 ≤ slack capacity :=
  div_nonneg (Nat.cast_nonneg _) (by norm_num)

theorem slack_le (capacity : UInt32) : slack capacity ≤ capacity.toNat :=
  div_le_self (Nat.cast_nonneg _) (by norm_num)

namespace Serves

variable {capacity : UInt32} {rate : Binary64} {b b' : Bucket}

theorem rank_rate_lt (serves : b.Serves capacity rate) : b.rate.rank < 2047 * 2 ^ 52 := by
  rw [serves.rate_eq]
  exact (Limits.eq_ofRank_of_isRate serves.isRate).2

theorem toRat_rate (serves : b.Serves capacity rate) :
    b.rate.toRat = unitsAt b.rate.rank / unitsPerOne := by
  have eq_ofRank := (Limits.eq_ofRank_of_isRate serves.isRate).1
  rw [← serves.rate_eq] at eq_ofRank
  conv_lhs => rw [eq_ofRank]
  exact toRat_ofRank serves.rank_rate_lt

theorem toRat_rate_nonneg (serves : b.Serves capacity rate) : 0 ≤ b.rate.toRat := by
  rw [serves.rate_eq]
  exact (Limits.toRat_pos_of_isRate serves.isRate).le

theorem unclamped_nonneg (serves : b.Serves capacity rate) (now : Instant) :
    0 ≤ b.tokens.toRat + b.rate.toRat * ((now.since b.lastRefill : ℕ) / nanosPerSecond) :=
  add_nonneg (serves.tokens.toRat_nonneg (capacity_small capacity))
    (mul_nonneg serves.toRat_rate_nonneg (div_nonneg (Nat.cast_nonneg _) (Nat.cast_nonneg _)))

theorem level_nonneg (serves : b.Serves capacity rate) (now : Instant) : 0 ≤ b.level now :=
  le_min (Nat.cast_nonneg _) (serves.unclamped_nonneg now)

theorem level_le (serves : b.Serves capacity rate) (now : Instant) :
    b.level now ≤ capacity.toNat := by
  rw [level, serves.capacity_eq]
  exact min_le_left _ _

/-- Three roundings of the credit, the last one with half a unit on top. -/
theorem unitsAt_creditRank_le (b : Bucket) (now : Instant) :
    (unitsAt (b.creditRank now) : ℚ) ≤
      unitsAt b.rate.rank * ((now.since b.lastRefill : ℕ) / nanosPerSecond) *
        (1 + roundoff) ^ 3 + 1 / 2 := by
  have product := unitsAt_nearestRank_le
    (unitsAt b.rate.rank * unitsAt (secondsRank (now.since b.lastRefill))) unitsPerOne_pos
  have seconds := unitsAt_secondsRank_le (Instant.since_lt now b.lastRefill)
  have unit : (0 : ℚ) < unitsPerOne := by exact_mod_cast unitsPerOne_pos
  rw [Nat.cast_mul, mul_div_assoc] at product
  have seconds' : (unitsAt (secondsRank (now.since b.lastRefill)) : ℚ) / unitsPerOne ≤
      (now.since b.lastRefill : ℕ) / nanosPerSecond * (1 + roundoff) ^ 2 := by
    rw [div_le_iff₀ unit]
    linarith
  have scaled := mul_le_mul_of_nonneg_left seconds' (Nat.cast_nonneg (unitsAt b.rate.rank))
  have factor : (0 : ℚ) ≤ 1 + roundoff := by linarith [roundoff_pos]
  calc _ ≤ _ := product
    _ ≤ unitsAt b.rate.rank * ((now.since b.lastRefill : ℕ) / nanosPerSecond *
          (1 + roundoff) ^ 2) * (1 + roundoff) + 1 / 2 := by
      linarith [mul_le_mul_of_nonneg_right scaled factor]
    _ = _ := by ring

/-- Four roundings of the sum, and a unit for the half that the credit may have gained. -/
theorem unitsAt_sumRank_le (b : Bucket) (now : Instant) :
    (unitsAt (b.sumRank now) : ℚ) ≤
      (unitsAt b.tokens.rank +
        unitsAt b.rate.rank * ((now.since b.lastRefill : ℕ) / nanosPerSecond)) *
        (1 + roundoff) ^ 4 + 1 := by
  have sum := unitsAt_nearestRank_one_le
    (unitsAt b.tokens.rank + unitsAt (b.creditRank now))
  have credit := unitsAt_creditRank_le b now
  have factor : (1 : ℚ) ≤ (1 + roundoff) ^ 3 := one_le_pow₀ (by linarith [roundoff_pos])
  have balance : (unitsAt b.tokens.rank : ℚ) ≤ unitsAt b.tokens.rank * (1 + roundoff) ^ 3 :=
    le_mul_of_one_le_right (Nat.cast_nonneg _) factor
  rw [Nat.cast_add] at sum
  calc _ ≤ _ := sum
    _ ≤ (unitsAt b.tokens.rank * (1 + roundoff) ^ 3 +
          (unitsAt b.rate.rank * ((now.since b.lastRefill : ℕ) / nanosPerSecond) *
            (1 + roundoff) ^ 3 + 1 / 2)) * (1 + roundoff) := by
      apply mul_le_mul_of_nonneg_right _ (by linarith [roundoff_pos])
      linarith
    _ ≤ _ := by
      have half : 1 / 2 * (1 + roundoff) ≤ 1 := by norm_num [roundoff]
      linarith

/-- A projection exceeds the level by the slack at most. -/
theorem toRat_projected_le_level (serves : b.Serves capacity rate) (now : Instant) :
    (b.projected now).toRat ≤ b.level now + slack capacity := by
  have small := capacity_small capacity
  have within := serves.within_projected now
  have unit : (0 : ℚ) < unitsPerOne := by exact_mod_cast unitsPerOne_pos
  have full := within.toRat_le small
  rw [level, serves.capacity_eq]
  rcases le_total (capacity.toNat : ℚ)
    (b.tokens.toRat + b.rate.toRat * ((now.since b.lastRefill : ℕ) / nanosPerSecond))
    with capped | below
  · rw [min_eq_left capped]
    linarith [slack_nonneg capacity]
  · rw [min_eq_right below]
    -- Below the capacity the four roundings count, each relative to at most the capacity.
    have units : (b.projected now).toRat ≤ unitsAt (b.sumRank now) / unitsPerOne := by
      rw [within.toRat_eq small, serves.projected_eq,
        rank_ofRank ((min_le_right _ _).trans_lt (wholeRank_lt small))]
      apply div_le_div_of_nonneg_right _ unit.le
      exact_mod_cast unitsAt_le_unitsAt.2 (min_le_left _ _)
    have sum := div_le_div_of_nonneg_right (unitsAt_sumRank_le b now) unit.le
    rw [add_div, mul_div_right_comm, add_div, mul_div_right_comm, ← serves.toRat_rate,
      ← serves.tokens.toRat_eq small] at sum
    have tiny : (1 : ℚ) / unitsPerOne ≤ 1 / 2 ^ 53 := by
      have large : 2 ^ 53 ≤ unitsPerOne := by decide +kernel
      exact one_div_le_one_div_of_le (by norm_num) (by exact_mod_cast large)
    have power : (1 + roundoff) ^ 4 ≤ 1 + 3 / 2 ^ 52 := by norm_num [roundoff]
    have one : (1 : ℚ) ≤ capacity.toNat := by exact_mod_cast serves.capacity_pos
    have nonneg := serves.unclamped_nonneg now
    have grown := mul_le_mul_of_nonneg_left power nonneg
    unfold slack
    linarith

/-- Three roundings of the credit, the last one with half a unit on top. -/
theorem mul_le_unitsAt_creditRank (b : Bucket) (now : Instant) :
    unitsAt b.rate.rank * ((now.since b.lastRefill : ℕ) / nanosPerSecond) * (1 - roundoff) ^ 3 ≤
      (unitsAt (b.creditRank now) : ℚ) + 1 / 2 := by
  have product := mul_le_unitsAt_nearestRank
    (unitsAt b.rate.rank * unitsAt (secondsRank (now.since b.lastRefill))) unitsPerOne_pos
  have seconds := mul_le_unitsAt_secondsRank (Instant.since_lt now b.lastRefill)
  have unit : (0 : ℚ) < unitsPerOne := by exact_mod_cast unitsPerOne_pos
  have factor : 0 ≤ 1 - roundoff := by norm_num [roundoff]
  rw [Nat.cast_mul, mul_div_assoc] at product
  have seconds' : (now.since b.lastRefill : ℕ) / nanosPerSecond * (1 - roundoff) ^ 2 ≤
      (unitsAt (secondsRank (now.since b.lastRefill)) : ℚ) / unitsPerOne := by
    rw [le_div_iff₀ unit]
    linarith
  have scaled := mul_le_mul_of_nonneg_left seconds' (Nat.cast_nonneg (unitsAt b.rate.rank))
  calc _ = unitsAt b.rate.rank * ((now.since b.lastRefill : ℕ) / nanosPerSecond *
          (1 - roundoff) ^ 2) * (1 - roundoff) := by ring
    _ ≤ _ := mul_le_mul_of_nonneg_right scaled factor
    _ ≤ _ := product

/-- Four roundings of the sum, and a unit for the half that the credit may have lost. -/
theorem mul_le_unitsAt_sumRank (b : Bucket) (now : Instant) :
    (unitsAt b.tokens.rank +
        unitsAt b.rate.rank * ((now.since b.lastRefill : ℕ) / nanosPerSecond)) *
        (1 - roundoff) ^ 4 ≤ (unitsAt (b.sumRank now) : ℚ) + 1 := by
  have sum : ((unitsAt b.tokens.rank + unitsAt (b.creditRank now) : ℕ) : ℚ) * (1 - roundoff) ≤
      unitsAt (b.sumRank now) := le_unitsAt_nearestRank_one _
  have credit := mul_le_unitsAt_creditRank b now
  have factor : 0 ≤ 1 - roundoff := by norm_num [roundoff]
  have power : (1 - roundoff) ^ 3 ≤ 1 := pow_le_one₀ factor (by linarith [roundoff_pos])
  have balance : (unitsAt b.tokens.rank : ℚ) * (1 - roundoff) ^ 3 ≤ unitsAt b.tokens.rank :=
    mul_le_of_le_one_right (Nat.cast_nonneg _) power
  rw [Nat.cast_add] at sum
  calc _ = (unitsAt b.tokens.rank * (1 - roundoff) ^ 3 +
          unitsAt b.rate.rank * ((now.since b.lastRefill : ℕ) / nanosPerSecond) *
            (1 - roundoff) ^ 3) * (1 - roundoff) := by ring
    _ ≤ (unitsAt b.tokens.rank + (unitsAt (b.creditRank now) + 1 / 2)) * (1 - roundoff) := by
      apply mul_le_mul_of_nonneg_right _ factor
      linarith
    _ ≤ _ := by
      have half : 1 / 2 * (1 - roundoff) ≤ 1 := by norm_num [roundoff]
      linarith

/-- A projection falls short of the level by the slack at most. -/
theorem level_le_toRat_projected (serves : b.Serves capacity rate) (now : Instant) :
    b.level now ≤ (b.projected now).toRat + slack capacity := by
  have small := capacity_small capacity
  have unit : (0 : ℚ) < unitsPerOne := by exact_mod_cast unitsPerOne_pos
  have level_le := serves.level_le now
  rw [serves.projected_eq]
  rcases le_total (wholeRank capacity.toNat) (b.sumRank now) with capped | below
  · rw [min_eq_right capped, ← ofNat_eq_ofRank, toRat_ofNat small]
    linarith [slack_nonneg capacity]
  · -- Below the capacity the four roundings count, each relative to at most the capacity.
    rw [min_eq_left below, toRat_ofRank (below.trans_lt (wholeRank_lt small))]
    have sum := div_le_div_of_nonneg_right (mul_le_unitsAt_sumRank b now) unit.le
    rw [add_div, mul_div_right_comm, add_div, mul_div_right_comm, ← serves.toRat_rate,
      ← serves.tokens.toRat_eq small] at sum
    have power : 1 - 1 / 2 ^ 51 ≤ (1 - roundoff) ^ 4 := by norm_num [roundoff]
    have shrunk : b.level now * (1 - 1 / 2 ^ 51) ≤ unitsAt (b.sumRank now) / unitsPerOne +
        1 / unitsPerOne := by
      refine le_trans ?_ sum
      exact mul_le_mul (min_le_right _ _) power (by norm_num) (serves.unclamped_nonneg now)
    have tiny : (1 : ℚ) / unitsPerOne ≤ 1 / 2 ^ 53 := by
      have large : 2 ^ 53 ≤ unitsPerOne := by decide +kernel
      exact one_div_le_one_div_of_le (by norm_num) (by exact_mod_cast large)
    have one : (1 : ℚ) ≤ capacity.toNat := by exact_mod_cast serves.capacity_pos
    unfold slack
    linarith

/-- What counts as full lacks the slack at most. -/
theorem capacity_le_level_of_isFullAt (serves : b.Serves capacity rate) {now : Instant}
    (isFull : b.isFullAt now = true) : capacity.toNat ≤ b.level now + slack capacity := by
  have bound := serves.toRat_projected_le_level now
  rwa [serves.projected_of_isFullAt isFull, toRat_ofNat (capacity_small capacity)] at bound

/-- A credit that is worth some whole tokens and a `2 ^ 50`th of them is worth these tokens in spite
of rounding, and so is the sum with the balance. -/
theorem wholeRank_le_sumRank (serves : b.Serves capacity rate) {now : Instant} {n : ℕ}
    (small : n < 2 ^ 53)
    (enough : (1 + 1 / 2 ^ 50) * n ≤
      rate.toRat * ((now.since b.lastRefill : ℕ) / nanosPerSecond)) :
    wholeRank n ≤ b.sumRank now := by
  have unit : (0 : ℚ) < unitsPerOne := by exact_mod_cast unitsPerOne_pos
  have seconds := mul_le_unitsAt_secondsRank (Instant.since_lt now b.lastRefill)
  generalize (now.since b.lastRefill : ℚ) / nanosPerSecond = gap at enough seconds
  have rate_nonneg := serves.toRat_rate_nonneg
  have rate_eq := serves.toRat_rate
  rw [serves.rate_eq] at rate_nonneg rate_eq
  have units : (unitsAt rate.rank : ℚ) = rate.toRat * unitsPerOne :=
    (div_eq_iff unit.ne').1 rate_eq.symm
  -- The two roundings of the seconds cost less than the excess, and no later one goes below the
  -- whole tokens, which are on the grid.
  have product : (n : ℚ) ≤
      rate.toRat * (unitsAt (secondsRank (now.since b.lastRefill)) / unitsPerOne) := by
    have rounded : gap * (1 - roundoff) ^ 2 ≤
        unitsAt (secondsRank (now.since b.lastRefill)) / unitsPerOne := by
      rw [le_div_iff₀ unit]
      linarith
    have factor : (1 : ℚ) ≤ (1 + 1 / 2 ^ 50) * (1 - roundoff) ^ 2 := by norm_num [roundoff]
    have square : (0 : ℚ) ≤ (1 - roundoff) ^ 2 := sq_nonneg _
    calc (n : ℚ)
        ≤ n * ((1 + 1 / 2 ^ 50) * (1 - roundoff) ^ 2) :=
          le_mul_of_one_le_right (Nat.cast_nonneg _) factor
      _ = (1 + 1 / 2 ^ 50) * n * (1 - roundoff) ^ 2 := by ring
      _ ≤ rate.toRat * gap * (1 - roundoff) ^ 2 := mul_le_mul_of_nonneg_right enough square
      _ = rate.toRat * (gap * (1 - roundoff) ^ 2) := by ring
      _ ≤ _ := mul_le_mul_of_nonneg_left rounded rate_nonneg
  have credit : wholeRank n ≤ b.creditRank now := by
    apply le_nearestRank unitsPerOne_pos
    rw [unitsAt_wholeRank small, serves.rate_eq, ← Nat.cast_le (α := ℚ)]
    push_cast
    rw [units]
    have scaled := mul_le_mul_of_nonneg_right product (mul_pos unit unit).le
    calc _ ≤ _ := (mul_assoc _ _ _).trans_le scaled
      _ = _ := by field_simp
  refine credit.trans (le_nearestRank Nat.one_pos ?_)
  rw [Nat.mul_one]
  exact Nat.le_add_left _ _

/-- Enough time fills a bucket in spite of rounding: when the credit is worth the capacity and a
`2 ^ 50`th of it. -/
theorem isFullAt_of_credit (serves : b.Serves capacity rate) {now : Instant}
    (enough : (1 + 1 / 2 ^ 50) * capacity.toNat ≤
      rate.toRat * ((now.since b.lastRefill : ℕ) / nanosPerSecond)) :
    b.isFullAt now = true := by
  rw [serves.isFullAt_iff]
  exact serves.wholeRank_le_sumRank (capacity_small capacity) enough

/-- Enough time brings any number of tokens up to the capacity. -/
theorem le_toRat_projected (serves : b.Serves capacity rate) {now : Instant} {n : ℕ}
    (fits : n ≤ capacity.toNat)
    (enough : (1 + 1 / 2 ^ 50) * n ≤
      rate.toRat * ((now.since b.lastRefill : ℕ) / nanosPerSecond)) :
    n ≤ (b.projected now).toRat := by
  have unit : (0 : ℚ) < unitsPerOne := by exact_mod_cast unitsPerOne_pos
  have small := capacity_small capacity
  have sum := serves.wholeRank_le_sumRank (fits.trans_lt small) enough
  have held : wholeRank n ≤ min (b.sumRank now) (wholeRank capacity.toNat) :=
    le_min sum (wholeRank_le_wholeRank fits)
  rw [serves.projected_eq, toRat_ofRank ((min_le_right _ _).trans_lt (wholeRank_lt small)),
    le_div_iff₀ unit]
  have units := unitsAt_le_unitsAt.2 held
  rw [unitsAt_wholeRank (fits.trans_lt small)] at units
  exact_mod_cast units

/-- A bucket that was refilled just now holds its level. -/
theorem level_eq_tokens (serves : b.Serves capacity rate) {now : Instant}
    (refilled : b.lastRefill = now) : b.level now = b.tokens.toRat := by
  have full := serves.tokens.toRat_le (capacity_small capacity)
  rw [← serves.capacity_eq] at full
  rw [level, refilled, Instant.since_self, Nat.cast_zero, zero_div, mul_zero, add_zero,
    min_eq_right full]

/-- A refill adds the slack to the level at most. -/
theorem level_refill_le (serves : b.Serves capacity rate) (now : Instant) :
    (b.refill now).level now ≤ b.level now + slack capacity := by
  rw [(serves.refill now).level_eq_tokens (lastRefill_refill b now)]
  exact serves.toRat_projected_le_level now

/-- A token taken just after a refill is missing from the level. -/
theorem level_take (serves : b.Serves capacity rate) {now : Instant}
    (refilled : b.lastRefill = now) (taken : b.take? = some b') :
    b'.level now + 1 = b.level now := by
  have serves' := serves.take taken
  obtain ⟨whole, rfl⟩ := take?_eq_some_iff.1 taken
  rw [serves.level_eq_tokens refilled, serves'.level_eq_tokens refilled]
  change (b.tokens - one).toRat + 1 = _
  rw [serves.tokens.toRat_sub_one (capacity_small capacity) whole, sub_add_cancel]

/-- From one instant to another the level rises by what the rate gives for the time between. -/
theorem level_later_le (serves : b.Serves capacity rate) (now later : Instant) :
    b.level later ≤ b.level now + rate.toRat * ((later.since now : ℕ) / nanosPerSecond) := by
  have rate_nonneg := serves.toRat_rate_nonneg
  have time : ((later.since b.lastRefill : ℕ) : ℚ) / nanosPerSecond ≤
      (now.since b.lastRefill : ℕ) / nanosPerSecond + (later.since now : ℕ) / nanosPerSecond := by
    rw [← add_div]
    apply div_le_div_of_nonneg_right _ (Nat.cast_nonneg _)
    exact_mod_cast later.since_le_add now b.lastRefill
  have gained := mul_le_mul_of_nonneg_left time rate_nonneg
  have moved : 0 ≤ b.rate.toRat * (((later.since now : ℕ) : ℚ) / nanosPerSecond) :=
    mul_nonneg rate_nonneg (div_nonneg (Nat.cast_nonneg _) (Nat.cast_nonneg _))
  rw [← serves.rate_eq, level, level, ← min_add_add_right]
  apply min_le_min <;> linarith

/-- While the clock is moved, the level rises by what the rate gives for the time. -/
theorem level_advance_le (serves : b.Serves capacity rate) (now : Instant) (d : Span) :
    b.level (now.advance d) ≤ b.level now + rate.toRat * (d.toNanos / nanosPerSecond) := by
  have time : (now.advance d).since now ≤ d.toNanos := by
    have moved := now.since_advance_le now d
    rwa [Instant.since_self, Nat.zero_add] at moved
  have rate_nonneg := serves.toRat_rate_nonneg
  rw [serves.rate_eq] at rate_nonneg
  refine (serves.level_later_le now (now.advance d)).trans (add_le_add_right ?_ _)
  apply mul_le_mul_of_nonneg_left _ rate_nonneg
  apply div_le_div_of_nonneg_right _ (Nat.cast_nonneg _)
  exact_mod_cast time

end Serves

end Bucket

end Floodgate
