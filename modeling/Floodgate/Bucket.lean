import Floodgate.Time.Clock

/-!
# Token buckets

A bucket holds up to `capacity` tokens and gains `rate` tokens per second. Nothing ticks: a
refill credits the time since the last one. Balances are binary64 numbers; the credit is rounded
before it is added, and the sum is held between zero and the capacity.

## Main definitions

* `Bucket.full` — a new bucket
* `Bucket.projected` — the balance a refill at an instant would give
* `Bucket.refill`, `Bucket.take?` — credit the time passed, take one token
-/

namespace Floodgate

/-- A token bucket. -/
structure Bucket where
  capacity : UInt32
  rate : Binary64
  tokens : Binary64
  lastRefill : Instant
  deriving DecidableEq

namespace Bucket

/-- The capacity as a binary64 number. -/
def limit (b : Bucket) : Binary64 := .ofNat b.capacity.toNat

/-- A full bucket. -/
def full (capacity : UInt32) (rate : Binary64) (now : Instant) : Bucket :=
  ⟨capacity, rate, .ofNat capacity.toNat, now⟩

/-- The tokens that the time up to `now` is worth; none when `now` is before the last refill. -/
def credit (b : Bucket) (now : Instant) : Binary64 :=
  b.rate * secondsOfNanos (now.since b.lastRefill)

/-- The balance after a refill at `now`. -/
def projected (b : Bucket) (now : Instant) : Binary64 :=
  (b.tokens + b.credit now).clamp .zero b.limit

/-- Credit the time up to `now`, and count from `now` on, even when that is earlier. -/
def refill (b : Bucket) (now : Instant) : Bucket :=
  { b with tokens := b.projected now, lastRefill := now }

/-- Take one token, if there is a whole one. -/
def take? (b : Bucket) : Option Bucket :=
  if Binary64.one.le b.tokens then some { b with tokens := b.tokens - .one } else none

/-- A refill at `now` would fill the bucket. -/
def isFullAt (b : Bucket) (now : Instant) : Bool := b.limit.le (b.projected now)

/-- The whole tokens in the bucket, as far as 32 bits go. -/
def available (b : Bucket) : Nat := b.tokens.floorBelow (2 ^ 32 - 1)

@[simp] theorem capacity_refill (b : Bucket) (now : Instant) :
    (b.refill now).capacity = b.capacity := rfl

@[simp] theorem rate_refill (b : Bucket) (now : Instant) : (b.refill now).rate = b.rate := rfl

@[simp] theorem tokens_refill (b : Bucket) (now : Instant) :
    (b.refill now).tokens = b.projected now := rfl

@[simp] theorem lastRefill_refill (b : Bucket) (now : Instant) :
    (b.refill now).lastRefill = now := rfl

theorem take?_eq_some_iff {b b' : Bucket} :
    b.take? = some b' ↔
      Binary64.one.le b.tokens = true ∧ b' = { b with tokens := b.tokens - .one } := by
  unfold take?
  split
  · next h => rw [Option.some_inj]; exact ⟨fun e => ⟨h, e.symm⟩, fun e => e.2.symm⟩
  · next h => exact ⟨fun e => (nomatch e), fun e => absurd e.1 h⟩

theorem take?_eq_none_iff {b : Bucket} : b.take? = none ↔ Binary64.one.le b.tokens = false := by
  unfold take?
  split
  · next h => rw [h]; exact ⟨fun e => (nomatch e), fun e => (nomatch e)⟩
  · next h => exact ⟨fun _ => Bool.eq_false_iff.2 h, fun _ => rfl⟩

end Bucket

end Floodgate
