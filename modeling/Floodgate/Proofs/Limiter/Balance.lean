import Floodgate.Proofs.Limiter.Reachable

/-!
# Balances of reachable limiters

Whatever is requested, swept or read and wherever the clock goes, every balance of a limiter is a
finite number from zero to the capacity of its bucket, and so is every projection. The whole
tokens that are told of a bucket are therefore exact.

## Main definitions

* `Binary64.IsBalance` — a number that is fit to be a balance
* `Bucket.KeepsTo` — a bucket of a tier with balances that are fit at every instant

## Main results

* `Session.Reachable.balances_within_capacity` — the buckets of reachable limiters
-/

namespace Floodgate

/-- Finite, and from zero to a capacity, both as a number is compared and by its exact value. -/
structure Binary64.IsBalance (capacity : UInt32) (x : Binary64) : Prop where
  isFinite : x.isFinite = true
  zero_le : Binary64.zero.le x = true
  le_capacity : x.le (.ofNat capacity.toNat) = true
  toRat_nonneg : 0 ≤ x.toRat
  toRat_le : x.toRat ≤ capacity.toNat

/-- A bucket with the capacity and the rate of a tier whose balance and projections are balances,
and whose whole tokens are told without being held at the end of the integers. -/
structure Bucket.KeepsTo (capacity : UInt32) (rate : Binary64) (b : Bucket) : Prop where
  capacity_eq : b.capacity = capacity
  rate_eq : b.rate = rate
  tokens : b.tokens.IsBalance capacity
  projected : ∀ t, (b.projected t).IsBalance capacity
  available : (b.available : ℤ) = ⌊b.tokens.toRat⌋

theorem Binary64.Within.isBalance {capacity : UInt32} {x : Binary64}
    (within : x.Within capacity.toNat) : x.IsBalance capacity :=
  have small := capacity_small capacity
  ⟨within.isFinite small, within.zero_le small, within.le_ofNat small, within.toRat_nonneg small,
    within.toRat_le small⟩

namespace Bucket.Serves

variable {capacity : UInt32} {rate : Binary64} {b : Bucket}

theorem keepsTo (serves : b.Serves capacity rate) : b.KeepsTo capacity rate where
  capacity_eq := serves.capacity_eq
  rate_eq := serves.rate_eq
  tokens := serves.tokens.isBalance
  projected t := (serves.within_projected t).isBalance
  available := serves.tokens.floorBelow_eq (capacity_small capacity)
    (Nat.le_sub_one_of_lt capacity.toNat_lt)

/-- The whole tokens of a projection fit into 64 bits. -/
theorem floorBelow_projected (serves : b.Serves capacity rate) (t : Instant) :
    ((b.projected t).floorBelow (2 ^ 64 - 1) : ℤ) = ⌊(b.projected t).toRat⌋ :=
  (serves.within_projected t).floorBelow_eq (capacity_small capacity)
    (capacity.toNat_lt.le.trans (by decide))

theorem floorBelow_projected_le (serves : b.Serves capacity rate) (t : Instant) :
    (b.projected t).floorBelow (2 ^ 64 - 1) ≤ capacity.toNat := by
  have whole := serves.floorBelow_projected t
  have below : (⌊(b.projected t).toRat⌋ : ℚ) ≤ capacity.toNat :=
    (Int.floor_le _).trans ((serves.within_projected t).toRat_le (capacity_small capacity))
  rw [← whole] at below
  exact_mod_cast below

end Bucket.Serves

namespace Session.Reachable

variable {limits : Limits} {s : Session}

/-- In every reachable session each bucket keeps to its tier, and a snapshot tells the whole
tokens of the projected global balance, no more than the global burst. -/
theorem balances_within_capacity (reachable : s.Reachable limits) :
    s.limiter.global.KeepsTo limits.globalBurst limits.globalRate ∧
      (∀ client b, s.limiter.clients.get? client = some b →
        b.KeepsTo limits.ipBurst limits.ipRate) ∧
      ∀ t, (s.limiter.stats t).globalTokensAvailable ≤ limits.globalBurst.toNat ∧
        ((s.limiter.stats t).globalTokensAvailable : ℤ) =
          ⌊(s.limiter.global.projected t).toRat⌋ := by
  obtain rfl := reachable.limits_eq
  have sound := reachable.sound
  refine ⟨sound.global.keepsTo, ?_, ?_⟩
  · intro client b tracked
    exact (sound.clients client b tracked).keepsTo
  · intro t
    exact ⟨sound.global.floorBelow_projected_le t, sound.global.floorBelow_projected t⟩

end Session.Reachable

/-- The least rate for each client and the greatest one for all. -/
def Limits.extreme : Limits :=
  ⟨.finite false 1 (by decide), 1, .finite false (2047 * 2 ^ 52 - 1) (by decide), 4294967295,
    ⟨0, 1, by decide⟩⟩

theorem Limits.meaningful_extreme : extreme.Meaningful := by
  constructor <;> decide

/-- Two requests of a client, with the clock moved past its end and thereby back by a nanosecond
in between. -/
def Session.setBack : Session :=
  (run ⟨.start .extreme ⟨5⟩, ⟨5⟩⟩ [.allow "a", .advance .longest, .allow "a"]).1

theorem Session.reachable_setBack : setBack.Reachable .extreme :=
  ⟨_, _, _, Limiter.new_eq_ok_iff.2 ⟨Limits.meaningful_extreme, rfl⟩, rfl⟩

theorem Session.balances_setBack :
    setBack.now = ⟨4⟩ ∧ setBack.limiter.clientTokens "a" = some .zero ∧
      setBack.Reachable .extreme ∧
      setBack.limiter.global.KeepsTo 4294967295 (.finite false (2047 * 2 ^ 52 - 1) (by decide)) ∧
      (∀ client b, setBack.limiter.clients.get? client = some b →
        b.KeepsTo 1 (.finite false 1 (by decide))) ∧
      ∀ t, (setBack.limiter.stats t).globalTokensAvailable ≤ 4294967295 := by
  obtain ⟨global, clients, stats⟩ := reachable_setBack.balances_within_capacity
  refine ⟨by decide +kernel, by decide +kernel, reachable_setBack, global, clients, ?_⟩
  intro t
  exact (stats t).1

end Floodgate
