import Floodgate.Proofs.Bucket.Level
import Mathlib.Algebra.Order.Group.MinMax

/-!
# Refilling often or once

A bucket that is refilled at many instants, one after the other, ends up with the balance that a
single refill at the last of them gives, but for rounding: neither way mints credit, and neither
loses any. Exactly the levels agree, since a credit that is held at the capacity may be given in
parts; each refill departs from the level by the slack at most, and a later credit does not make
that any worse.

## Main definitions

* `Bucket.refills` — a bucket refilled at several instants in turn
* `Bucket.unsigned` — a bucket with positive zero for a negative one

## Main results

* `Serves.level_eq_min` — a level is reached in parts
* `Serves.abs_level_refill_sub_le` — one refill changes later levels by the slack at most
* `Serves.abs_level_refills_sub_le` — many refills change them by as many slacks
* `Bucket.abs_refills_sub_refill_le` — refilling often and once
-/

namespace Floodgate

open Binary64

namespace Bucket

/-- The bucket refilled at several instants, one after the other. -/
def refills (b : Bucket) (ts : List Instant) : Bucket := ts.foldl refill b

@[simp] theorem refills_nil (b : Bucket) : b.refills [] = b := rfl

@[simp] theorem refills_cons (b : Bucket) (t : Instant) (ts : List Instant) :
    b.refills (t :: ts) = (b.refill t).refills ts := rfl

/-- What was refilled last is what counts for later refills. -/
theorem lastRefill_refills (b : Bucket) {ts : List Instant} (ne_nil : ts ≠ []) :
    (b.refills ts).lastRefill = ts.getLast ne_nil := by
  obtain ⟨ts, t, rfl⟩ := List.eq_nil_or_concat ts |>.resolve_left ne_nil
  simp [refills]

namespace Serves

variable {capacity : UInt32} {rate : Binary64} {b : Bucket} {now later : Instant}

theorem refills (serves : b.Serves capacity rate) (ts : List Instant) :
    (b.refills ts).Serves capacity rate := by
  induction ts generalizing b with
  | nil => exact serves
  | cons t ts ih => exact ih (serves.refill t)

/-- The level at a later instant, from the level on the way. -/
theorem level_eq_min (serves : b.Serves capacity rate)
    (le : b.lastRefill.nanos.toNat ≤ now.nanos.toNat)
    (le' : now.nanos.toNat ≤ later.nanos.toNat) :
    b.level later = min (capacity.toNat : ℚ)
      (b.level now + rate.toRat * ((later.since now : ℕ) / nanosPerSecond)) := by
  have gained : 0 ≤ rate.toRat * ((later.since now : ℕ) / nanosPerSecond : ℚ) :=
    mul_nonneg (serves.rate_eq ▸ serves.toRat_rate_nonneg)
      (div_nonneg (Nat.cast_nonneg _) (Nat.cast_nonneg _))
  rw [level, level, serves.capacity_eq, serves.rate_eq, Instant.since_eq_add le le', Nat.cast_add,
    add_div, mul_add, ← add_assoc, ← min_add_add_right, ← min_assoc,
    min_eq_left (le_add_of_nonneg_right gained)]

/-- After a refill the level departs from the one that it would have been, by the slack at most. -/
theorem abs_level_refill_sub_le (serves : b.Serves capacity rate)
    (le : b.lastRefill.nanos.toNat ≤ now.nanos.toNat)
    (le' : now.nanos.toNat ≤ later.nanos.toNat) :
    |(b.refill now).level later - b.level later| ≤ slack capacity := by
  have refilled := serves.refill now
  have rounded : |(b.refill now).level now - b.level now| ≤ slack capacity := by
    rw [refilled.level_eq_tokens (lastRefill_refill b now), tokens_refill, abs_le]
    have upper := serves.toRat_projected_le_level now
    have lower := serves.level_le_toRat_projected now
    constructor <;> linarith
  have lateness : (b.refill now).lastRefill.nanos.toNat ≤ now.nanos.toNat := le_rfl
  rw [refilled.level_eq_min lateness le', serves.level_eq_min le le']
  -- What is held at the capacity on both sides is no further apart than before.
  refine (abs_min_sub_min_le_max _ _ _ _).trans (max_le ?_ ?_)
  · rw [sub_self, abs_zero]
    exact slack_nonneg capacity
  · rwa [add_sub_add_right_eq_sub]

theorem abs_level_refills_sub_le (serves : b.Serves capacity rate) {ts : List Instant}
    (forward : (b.lastRefill :: ts).Pairwise fun s t => s.nanos.toNat ≤ t.nanos.toNat)
    (le : ∀ t ∈ ts, t.nanos.toNat ≤ later.nanos.toNat) :
    |(b.refills ts).level later - b.level later| ≤ ts.length * slack capacity := by
  induction ts generalizing b with
  | nil => simp
  | cons t ts ih =>
    obtain ⟨ahead, forward⟩ := List.pairwise_cons.1 forward
    have first := serves.abs_level_refill_sub_le (ahead t (by simp)) (le t (by simp))
    have others := ih (serves.refill t) forward fun s mem => le s (by simp [mem])
    rw [refills_cons, List.length_cons]
    push_cast
    calc _ ≤ _ := abs_sub_le _ ((b.refill t).level later) _
      _ ≤ ts.length * slack capacity + slack capacity := add_le_add others first
      _ = _ := by ring

end Serves

/-! ### Negative zero -/

/-- The bucket with a balance of no sign. -/
def unsigned (b : Bucket) : Bucket := { b with tokens := ofRank false b.tokens.rank }

theorem add_of_negative_zero (r : ℕ) :
    finite true 0 zero_lt_infinity + ofRank false r = ofRank false 0 + ofRank false r := by
  rw [ofRank_add, unitsAt_zero, Nat.zero_add, nearestRank_unitsAt]
  rcases lt_or_ge r (2047 * 2 ^ 52) with finite | past
  · have sum := add_eq_ofRank zero_lt_infinity finite (s := true) (t := false) rfl
      (Int.neg_zero.symm ▸ Int.zero_add _ : -((unitsAt 0 : ℕ) : ℤ) + unitsAt r = unitsAt r)
    rw [ofRank_of_lt finite, sum, nearestRank_unitsAt, ofRank_of_lt finite]
  · rw [ofRank_of_le past]
    rfl

/-- A balance from zero to the capacity has no sign, or is negative zero. -/
theorem tokens_cases {b : Bucket} (nonneg : zero.le b.tokens = true)
    (fits : b.tokens.le b.limit = true) :
    b.tokens = ofRank false b.tokens.rank ∧ b.tokens.rank ≤ wholeRank b.capacity.toNat ∨
      b.tokens = finite true 0 zero_lt_infinity := by
  have small := wholeRank_lt (capacity_small b.capacity)
  rw [limit, ofNat_eq_ofRank] at fits
  cases tokens_eq : b.tokens with
  | nan => exact absurd nonneg (by simp [tokens_eq, le, position])
  | infinite negative =>
    rw [tokens_eq] at nonneg fits
    cases negative with
    | true => exact absurd nonneg (by decide)
    | false =>
      rw [← ofRank_of_le le_rfl, le_ofRank small, decide_eq_true_eq] at fits
      omega
  | finite negative r finite =>
    rw [tokens_eq] at nonneg fits
    cases negative with
    | true =>
      have below : (0 : ℤ) ≤ -(r : ℤ) := of_decide_eq_true nonneg
      obtain rfl : r = 0 := by omega
      exact .inr rfl
    | false =>
      rw [← ofRank_of_lt finite, le_ofRank small, decide_eq_true_eq] at fits
      exact .inl ⟨(ofRank_of_lt finite).symm, fits⟩

section Range

variable {b : Bucket} (isRate : Limits.isRate b.rate = true)
  (capacity_pos : 1 ≤ b.capacity.toNat) (nonneg : zero.le b.tokens = true)
  (fits : b.tokens.le b.limit = true)

include isRate capacity_pos nonneg fits

theorem serves_unsigned : b.unsigned.Serves b.capacity b.rate := by
  refine ⟨capacity_pos, isRate, rfl, rfl, .of_rank (capacity_small b.capacity) ?_⟩
  obtain ⟨-, le⟩ | negative := tokens_cases nonneg fits
  · exact le
  · rw [negative]
    exact Nat.zero_le _

/-- The sign of zero is lost in a refill. -/
theorem refill_unsigned (now : Instant) : b.unsigned.refill now = b.refill now := by
  obtain ⟨eq_ofRank, -⟩ | negative := tokens_cases nonneg fits
  · rw [unsigned, ← eq_ofRank]
  · have credit := (serves_unsigned isRate capacity_pos nonneg fits).credit_eq now
    have projected_eq : b.unsigned.projected now = b.projected now := by
      change (ofRank false b.tokens.rank + b.unsigned.credit now).clamp zero b.limit =
        (b.tokens + b.unsigned.credit now).clamp zero b.limit
      rw [credit, negative, add_of_negative_zero]
      rfl
    rw [refill, refill, projected_eq]
    rfl

/-- Refilled at several instants that do not go back, a bucket has the balance that one refill at
the last of them gives, up to one slack for each refill. -/
theorem abs_refills_sub_refill_le {ts : List Instant} (ne_nil : ts ≠ [])
    (forward : (b.lastRefill :: ts).Pairwise fun s t => s.nanos.toNat ≤ t.nanos.toNat) :
    let often := b.refills ts
    let once := b.refill (ts.getLast ne_nil)
    often.lastRefill = once.lastRefill ∧
      often.tokens.isFinite = true ∧ once.tokens.isFinite = true ∧
      |often.tokens.toRat - once.tokens.toRat| ≤
        (ts.length + 1) * b.capacity.toNat / 2 ^ 50 := by
  intro often once
  have serves := serves_unsigned isRate capacity_pos nonneg fits
  have unsigned_refill := refill_unsigned isRate capacity_pos nonneg fits
  have often_eq : b.unsigned.refills ts = often := by
    obtain ⟨t, ts, rfl⟩ := List.exists_cons_of_ne_nil ne_nil
    rw [refills_cons, unsigned_refill, ← refills_cons]
  have once_eq : b.unsigned.refill (ts.getLast ne_nil) = once := unsigned_refill _
  have last_often : often.lastRefill = ts.getLast ne_nil := lastRefill_refills b ne_nil
  have last_once : once.lastRefill = ts.getLast ne_nil := rfl
  have often_serves : often.Serves b.capacity b.rate := often_eq ▸ serves.refills ts
  have once_serves : once.Serves b.capacity b.rate := once_eq ▸ serves.refill _
  have small := capacity_small b.capacity
  refine ⟨last_often.trans last_once.symm, often_serves.tokens.isFinite small,
    once_serves.tokens.isFinite small, ?_⟩
  -- At the last instant both balances are levels, and neither is far from the level without
  -- any refill.
  have le_last : ∀ t ∈ ts, t.nanos.toNat ≤ (ts.getLast ne_nil).nanos.toNat := fun t mem =>
    forward.of_cons.rel_getLast_of_rel_getLast_getLast mem le_rfl
  have many := serves.abs_level_refills_sub_le forward le_last
  have last_le : b.lastRefill.nanos.toNat ≤ (ts.getLast ne_nil).nanos.toNat :=
    List.rel_of_pairwise_cons forward (List.getLast_mem ne_nil)
  have single := serves.abs_level_refill_sub_le last_le le_rfl
  rw [often_eq, often_serves.level_eq_tokens last_often] at many
  rw [once_eq, once_serves.level_eq_tokens last_once, abs_sub_comm] at single
  calc _ ≤ _ := abs_sub_le _ (b.unsigned.level (ts.getLast ne_nil)) _
    _ ≤ ts.length * slack b.capacity + slack b.capacity := add_le_add many single
    _ = _ := by
      unfold slack
      ring

end Range

/-- Ten drips of a tenth fall short of the token that one refill brings, by no more than allowed. -/
theorem dripping_refills :
    let b : Bucket := ⟨3, .ofRatio 1 10, .zero, .base⟩
    let ts : List Instant := (List.range 10).map fun k => ⟨UInt64.ofNat ((k + 1) * nanosPerSecond)⟩
    let once := b.refill ⟨UInt64.ofNat (10 * nanosPerSecond)⟩
    (b.refills ts).take? = none ∧ (once.take?).isSome = true ∧
      |(b.refills ts).tokens.toRat - once.tokens.toRat| ≤ (10 + 1) * 3 / 2 ^ 50 := by
  intro b ts once
  have ne_nil : ts ≠ [] := by simp [ts]
  have isRate : Limits.isRate b.rate = true := by decide +kernel
  obtain ⟨-, -, -, close⟩ := abs_refills_sub_refill_le isRate (by decide +kernel)
    (by decide +kernel) (by decide +kernel) ne_nil (by decide +kernel)
  exact ⟨by decide +kernel, by decide +kernel, close⟩

end Bucket

end Floodgate
