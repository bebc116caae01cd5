import Floodgate.Time.Clock
import Floodgate.Proofs.Binary64.Magnitude

/-!
# Seconds as binary64 numbers

The seconds of a gap are a rounded sum of the whole seconds and the rounded rest. The sum follows
the gap: the rest never rounds past one second, so the carry into the next second does not step
back.

## Main definitions

* `secondsRank` — the rank of a gap's seconds

## Main results

* `secondsRank_le_secondsRank` — a longer gap has no fewer seconds
* `unitsAt_secondsRank_le`, `mul_le_unitsAt_secondsRank` — the seconds exceed the gap, or fall
  short of it, by two roundings at most
* `Instant.since_advance_le` — a clock that is moved lets no more time pass than it is moved by,
  also when it starts over
* `Instant.exists_advance_eq` — a clock can be moved to every instant
-/

namespace Floodgate

open Binary64

/-- The rank of the part of a second that some nanoseconds make. -/
def partRank (n : ℕ) : ℕ := nearestRank (n * unitsPerOne) nanosPerSecond

/-- The rank of a gap's seconds. -/
def secondsRank (n : ℕ) : ℕ :=
  nearestRank (unitsAt (wholeRank (n / nanosPerSecond)) + unitsAt (partRank (n % nanosPerSecond))) 1

theorem secondsOfNanos_eq_ofRank (n : ℕ) : secondsOfNanos n = ofRank false (secondsRank n) :=
  ofRank_add _ _

theorem nanosPerSecond_pos : 0 < nanosPerSecond := by decide

theorem secondsRank_zero : secondsRank 0 = 0 := by
  rw [secondsRank, wholeRank, partRank, Nat.zero_div, Nat.zero_mod, Nat.zero_mul,
    nearestRank_zero, nearestRank_zero, unitsAt_zero, nearestRank_zero]

theorem partRank_le_partRank {m n : ℕ} (le : m ≤ n) : partRank m ≤ partRank n :=
  nearestRank_le_nearestRank nanosPerSecond_pos nanosPerSecond_pos
    (Nat.mul_le_mul_right _ (Nat.mul_le_mul_right _ le))

/-- A part of a second is not rounded past one second. -/
theorem unitsAt_partRank_le {n : ℕ} (part : n < nanosPerSecond) :
    unitsAt (partRank n) ≤ unitsPerOne := by
  have rank : partRank n ≤ 1023 * 2 ^ 52 := by
    apply nearestRank_le nanosPerSecond_pos
    rw [unitsAt_one, Nat.mul_comm]
    exact Nat.mul_le_mul_left _ part.le
  exact (unitsAt_le_unitsAt.2 rank).trans_eq unitsAt_one

/-- Whole seconds of 64 bits of nanoseconds, and one more, are exact. -/
theorem seconds_small {n : ℕ} (bits : n < 2 ^ 64) : n / nanosPerSecond + 1 < 2 ^ 53 := by
  unfold nanosPerSecond
  omega

theorem secondsRank_le_secondsRank {m n : ℕ} (le : m ≤ n) (bits : n < 2 ^ 64) :
    secondsRank m ≤ secondsRank n := by
  refine nearestRank_le_nearestRank Nat.one_pos Nat.one_pos (Nat.mul_le_mul_right 1 ?_)
  rcases (Nat.div_le_div_right (c := nanosPerSecond) le).eq_or_lt with same | carried
  · rw [same]
    refine Nat.add_le_add_left (unitsAt_le_unitsAt.2 (partRank_le_partRank ?_)) _
    have hm := Nat.div_add_mod m nanosPerSecond
    have hn := Nat.div_add_mod n nanosPerSecond
    rw [same] at hm
    omega
  · -- The part is at most one second, which the carried second makes up for.
    have small := seconds_small bits
    rw [unitsAt_wholeRank (by omega), unitsAt_wholeRank (by omega)]
    have part := unitsAt_partRank_le (Nat.mod_lt m nanosPerSecond_pos)
    have whole := Nat.mul_le_mul_right unitsPerOne (Nat.succ_le_of_lt carried)
    rw [Nat.succ_mul] at whole
    omega

/-- The seconds of 64 bits of nanoseconds are finite. -/
theorem secondsRank_lt {n : ℕ} (bits : n < 2 ^ 64) : secondsRank n < 2047 * 2 ^ 52 := by
  have small := seconds_small bits
  refine lt_of_le_of_lt ?_ (wholeRank_lt small)
  apply nearestRank_le Nat.one_pos
  rw [unitsAt_wholeRank (by omega), unitsAt_wholeRank (by omega), Nat.mul_one, Nat.succ_mul]
  exact Nat.add_le_add_left (unitsAt_partRank_le (Nat.mod_lt n nanosPerSecond_pos)) _

/-- Parts of a second are normal numbers. -/
theorem part_normal {n : ℕ} (positive : 0 < n) : 2 ^ 52 * nanosPerSecond ≤ n * unitsPerOne := by
  have one : 2 ^ 52 * nanosPerSecond ≤ unitsPerOne := by decide +kernel
  exact one.trans (Nat.le_mul_of_pos_left _ positive)

/-- Parts of a second are normal numbers, so their error is relative. -/
theorem unitsAt_partRank_le_mul (n : ℕ) :
    (unitsAt (partRank n) : ℚ) ≤ n * unitsPerOne / nanosPerSecond * (1 + roundoff) := by
  rcases Nat.eq_zero_or_pos n with rfl | positive
  · rw [partRank, Nat.zero_mul, nearestRank_zero, unitsAt_zero, Nat.cast_zero, zero_mul, zero_div,
      zero_mul]
  · have bound := unitsAt_nearestRank_le_of_normal nanosPerSecond_pos (part_normal positive)
    rwa [Nat.cast_mul] at bound

theorem mul_le_unitsAt_partRank (n : ℕ) :
    (n * unitsPerOne / nanosPerSecond : ℚ) * (1 - roundoff) ≤ unitsAt (partRank n) := by
  rcases Nat.eq_zero_or_pos n with rfl | positive
  · rw [Nat.cast_zero, zero_mul, zero_div, zero_mul]
    exact Nat.cast_nonneg _
  · have bound := le_unitsAt_nearestRank_of_normal nanosPerSecond_pos (part_normal positive)
    rwa [Nat.cast_mul] at bound

/-- A gap in seconds, as whole seconds and a part. -/
theorem div_nanosPerSecond (n : ℕ) :
    (n : ℚ) / nanosPerSecond =
      (n / nanosPerSecond : ℕ) + ((n % nanosPerSecond : ℕ) : ℚ) / nanosPerSecond := by
  have nonzero : (nanosPerSecond : ℚ) ≠ 0 := by exact_mod_cast nanosPerSecond_pos.ne'
  have split : (nanosPerSecond * (n / nanosPerSecond : ℕ) + (n % nanosPerSecond : ℕ) : ℚ) = n := by
    exact_mod_cast Nat.div_add_mod n nanosPerSecond
  rw [← split, add_div, mul_div_cancel_left₀ _ nonzero]

theorem unitsAt_secondsRank_le {n : ℕ} (bits : n < 2 ^ 64) :
    (unitsAt (secondsRank n) : ℚ) ≤
      n / nanosPerSecond * unitsPerOne * (1 + roundoff) ^ 2 := by
  have small := seconds_small bits
  have sum := unitsAt_nearestRank_one_le
    (unitsAt (wholeRank (n / nanosPerSecond)) + unitsAt (partRank (n % nanosPerSecond)))
  have part := unitsAt_partRank_le_mul (n % nanosPerSecond)
  rw [unitsAt_wholeRank (by omega), Nat.cast_add, Nat.cast_mul] at sum
  rw [secondsRank, unitsAt_wholeRank (by omega), div_nanosPerSecond]
  -- The whole seconds need no rounding, but the bound allows them the error of the part.
  have spare : (0 : ℚ) ≤ (n / nanosPerSecond : ℕ) * unitsPerOne * roundoff :=
    mul_nonneg (mul_nonneg (Nat.cast_nonneg _) (Nat.cast_nonneg _)) roundoff_pos.le
  calc _ ≤ _ := sum
    _ ≤ ((n / nanosPerSecond : ℕ) * unitsPerOne * (1 + roundoff) +
          (n % nanosPerSecond : ℕ) * unitsPerOne / nanosPerSecond * (1 + roundoff)) *
        (1 + roundoff) := by
      apply mul_le_mul_of_nonneg_right _ (by linarith [roundoff_pos])
      linarith
    _ = _ := by ring

/-- The seconds lose two roundings at most. -/
theorem mul_le_unitsAt_secondsRank {n : ℕ} (bits : n < 2 ^ 64) :
    (n / nanosPerSecond * unitsPerOne : ℚ) * (1 - roundoff) ^ 2 ≤ unitsAt (secondsRank n) := by
  have small := seconds_small bits
  have sum := le_unitsAt_nearestRank_one
    (unitsAt (wholeRank (n / nanosPerSecond)) + unitsAt (partRank (n % nanosPerSecond)))
  have part := mul_le_unitsAt_partRank (n % nanosPerSecond)
  rw [unitsAt_wholeRank (by omega), Nat.cast_add, Nat.cast_mul] at sum
  rw [secondsRank, unitsAt_wholeRank (by omega), div_nanosPerSecond]
  -- The whole seconds lose nothing, but the bound allows them the error of the part.
  have spare : (0 : ℚ) ≤ (n / nanosPerSecond : ℕ) * unitsPerOne * roundoff :=
    mul_nonneg (mul_nonneg (Nat.cast_nonneg _) (Nat.cast_nonneg _)) roundoff_pos.le
  have factor : 0 ≤ 1 - roundoff := by norm_num [roundoff]
  calc _ = ((n / nanosPerSecond : ℕ) * unitsPerOne * (1 - roundoff) +
          (n % nanosPerSecond : ℕ) * unitsPerOne / nanosPerSecond * (1 - roundoff)) *
        (1 - roundoff) := by ring
    _ ≤ ((n / nanosPerSecond : ℕ) * unitsPerOne +
          (unitsAt (partRank (n % nanosPerSecond)) : ℚ)) * (1 - roundoff) := by
      apply mul_le_mul_of_nonneg_right _ factor
      linarith
    _ ≤ _ := sum

namespace Instant

theorem since_lt (now earlier : Instant) : now.since earlier < 2 ^ 64 := by
  have := now.nanos.toNat_lt
  unfold since
  omega

theorem since_le_since {now later : Instant} (le : now.nanos.toNat ≤ later.nanos.toNat)
    (earlier : Instant) : now.since earlier ≤ later.since earlier :=
  Nat.sub_le_sub_right le _

theorem since_le_add (later now earlier : Instant) :
    later.since earlier ≤ now.since earlier + later.since now := by
  unfold since
  omega

/-- Time passes once, however it is divided. -/
theorem since_eq_add {earlier now later : Instant}
    (le : earlier.nanos.toNat ≤ now.nanos.toNat) (le' : now.nanos.toNat ≤ later.nanos.toNat) :
    later.since earlier = now.since earlier + later.since now := by
  unfold since
  omega

theorem since_advance_le (now earlier : Instant) (d : Span) :
    (now.advance d).since earlier ≤ now.since earlier + d.toNanos := by
  have moved : (now.advance d).nanos.toNat ≤ now.nanos.toNat + d.toNanos := by
    simp only [advance, UInt64.toNat_add, UInt64.toNat_ofNat']
    refine (Nat.mod_le _ _).trans (Nat.add_le_add_left ((Nat.mod_le _ _).trans ?_) _)
    exact min_le_left _ _
  unfold since
  omega

/-- Moving the clock leads from any instant to any other, also to an earlier one. -/
theorem exists_advance_eq (now target : Instant) : ∃ d, now.advance d = target := by
  have bits := (target.nanos - now.nanos).toNat_lt
  obtain ⟨d, moved⟩ : ∃ d, Span.carry? 0 (target.nanos - now.nanos).toNat = some d := by
    refine ⟨_, if_pos ?_⟩
    unfold nanosPerSecond
    omega
  refine ⟨d, ?_⟩
  have nanos := Span.toNanos_of_carry? moved
  rw [Nat.zero_mul, Nat.zero_add] at nanos
  rw [advance, nanos, min_eq_left (by omega), UInt64.ofNat_toNat, UInt64.add_comm,
    UInt64.sub_add_cancel]

end Instant

end Floodgate
