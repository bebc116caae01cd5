import Mathlib.Tactic.FieldSimp
import Mathlib.Tactic.Linarith
import Mathlib.Tactic.Positivity
import Mathlib.Data.Rat.Cast.Order
import Floodgate.Proofs.Binary64.Grid

/-!
# Rounding to the nearest magnitude

The nearest rank is told apart from all others by the two midpoints around its magnitude; on a
midpoint the even rank wins. Monotonicity, exactness on the grid and the error bounds all follow
from these bounds.

## Main definitions

* `midpointAt` — twice the midpoint of a magnitude and the next one
* `Nearest` — the rank of the magnitude nearest a quotient
* `roundoff` — the greatest relative error of one rounding

## Main results

* `nearest_nearestRank` — rounding finds the nearest rank
* `nearestRank_le_nearestRank` — a greater quotient is not rounded to a lesser rank
* `nearestRank_unitsAt` — magnitudes are rounded to themselves
* `unitsAt_nearestRank_le` — rounding up exceeds the quotient by at most its relative error, or by
  half a unit
* `le_unitsAt_nearestRank_of_normal`, `le_unitsAt_nearestRank_one` — rounding down loses at most
  the relative error
* `mul_le_unitsAt_nearestRank` — any rounding loses at most the relative error and half a unit
-/

namespace Floodgate.Binary64

/-- Twice the midpoint between a magnitude and the next one. -/
def midpointAt (r : ℕ) : ℕ := unitsAt r + unitsAt (r + 1)

theorem midpointAt_strictMono : StrictMono midpointAt := fun _ _ less =>
  Nat.add_lt_add (unitsAt_strictMono less) (unitsAt_strictMono (Nat.succ_lt_succ less))

theorem midpointAt_le (r : ℕ) : midpointAt r ≤ (2 ^ 54 - 1) * 2 ^ (r / 2 ^ 52 - 1) := by
  have magnitude := unitsAt_le r
  rw [midpointAt, unitsAt_succ]
  omega

/-- `r` is the rank nearest `n / d` units: the quotient lies between the midpoints on both sides
of the magnitude, and on one of them only when the rank is even. -/
structure Nearest (n d r : ℕ) : Prop where
  le_above : 2 * n ≤ d * midpointAt r
  even_of_eq_above : 2 * n = d * midpointAt r → r % 2 = 0
  below_le : ∀ s, r = s + 1 → d * midpointAt s ≤ 2 * n
  even_of_eq_below : ∀ s, r = s + 1 → d * midpointAt s = 2 * n → r % 2 = 0

section Rounding

variable {n d n' d' r r' : ℕ}

/-- The test of `nearestRank`, said with the midpoint above the floor rank. -/
theorem nearestRank_eq_ite (n d : ℕ) :
    nearestRank n d =
      if d * midpointAt (floorRank (n / d)) < 2 * n ∨
          (d * midpointAt (floorRank (n / d)) = 2 * n ∧ floorRank (n / d) % 2 = 1)
      then floorRank (n / d) + 1 else floorRank (n / d) := by
  have fits : d * unitsAt (floorRank (n / d)) ≤ n :=
    (Nat.mul_le_mul_left d (unitsAt_floorRank_le _)).trans (Nat.mul_div_le n d)
  have middle : d * midpointAt (floorRank (n / d)) =
      2 * (d * unitsAt (floorRank (n / d))) + d * 2 ^ spacingLog (n / d) := by
    rw [midpointAt, unitsAt_floorRank_succ]
    ring
  unfold nearestRank
  dsimp only
  generalize d * unitsAt (floorRank (n / d)) = floor at fits middle ⊢
  generalize d * 2 ^ spacingLog (n / d) = step at middle ⊢
  rw [middle]
  refine if_congr (or_congr ?_ (and_congr_left fun _ => ?_)) rfl rfl <;> omega

theorem nearest_nearestRank (n : ℕ) (positive : 0 < d) : Nearest n d (nearestRank n d) := by
  set low := floorRank (n / d) with hlow
  have floor : d * unitsAt low ≤ n :=
    (Nat.mul_le_mul_left d (unitsAt_floorRank_le _)).trans (Nat.mul_div_le n d)
  have ceiling : n < d * unitsAt (low + 1) := by
    rw [mul_comm]
    exact (Nat.div_lt_iff_lt_mul positive).1 (lt_unitsAt_floorRank_succ _)
  rw [nearestRank_eq_ite, ← hlow]
  split_ifs with up
  · -- Rounded up: the quotient is at least the midpoint below and clear of the one above.
    have clear : 2 * n < d * midpointAt (low + 1) := by
      have next : d * unitsAt (low + 1) ≤ d * unitsAt (low + 1 + 1) :=
        Nat.mul_le_mul_left d (unitsAt_strictMono.monotone (Nat.le_succ _))
      rw [midpointAt, Nat.mul_add]
      omega
    refine ⟨clear.le, fun tie => absurd tie clear.ne, ?_, ?_⟩
    · rintro s rank
      obtain rfl := Nat.succ.inj rank
      omega
    · rintro s rank tie
      obtain rfl := Nat.succ.inj rank
      omega
  · have clear : ∀ s, low = s + 1 → d * midpointAt s < 2 * n := by
      rintro s rank
      have less : d * unitsAt s < d * unitsAt low :=
        Nat.mul_lt_mul_of_pos_left (unitsAt_strictMono (by omega)) positive
      rw [midpointAt, ← rank, Nat.mul_add]
      omega
    refine ⟨by omega, by omega, fun s rank => (clear s rank).le, ?_⟩
    exact fun s rank tie => absurd tie (clear s rank).ne

/-- The nearest ranks of two quotients are in the order of the quotients. -/
theorem Nearest.le (near : Nearest n d r) (near' : Nearest n' d' r') (positive : 0 < d)
    (positive' : 0 < d') (le : n * d' ≤ n' * d) : r ≤ r' := by
  by_contra greater
  obtain ⟨s, rfl⟩ : ∃ s, r = s + 1 := ⟨r - 1, by omega⟩
  -- Both quotients would have to be the midpoint between the ranks, which only one can take.
  have lower : d * d' * midpointAt s ≤ 2 * (n * d') := by
    have := Nat.mul_le_mul_right d' (near.below_le s rfl)
    calc d * d' * midpointAt s = d * midpointAt s * d' := by ring
      _ ≤ 2 * n * d' := this
      _ = 2 * (n * d') := by ring
  have upper : 2 * (n' * d) ≤ d * d' * midpointAt r' := by
    have := Nat.mul_le_mul_right d near'.le_above
    calc 2 * (n' * d) = 2 * n' * d := by ring
      _ ≤ d' * midpointAt r' * d := this
      _ = d * d' * midpointAt r' := by ring
  have middle : midpointAt r' ≤ midpointAt s := midpointAt_strictMono.monotone (by omega)
  have scaled := Nat.mul_le_mul_left (d * d') middle
  have equal : midpointAt r' = midpointAt s := by
    apply Nat.eq_of_mul_eq_mul_left (Nat.mul_pos positive positive')
    omega
  obtain rfl := midpointAt_strictMono.injective equal
  have tie : d * midpointAt r' = 2 * n := by
    apply Nat.eq_of_mul_eq_mul_right positive'
    calc d * midpointAt r' * d' = d * d' * midpointAt r' := by ring
      _ = 2 * n * d' := by linarith
  have tie' : 2 * n' = d' * midpointAt r' := by
    apply Nat.eq_of_mul_eq_mul_right positive
    calc 2 * n' * d = d * d' * midpointAt r' := by linarith
      _ = d' * midpointAt r' * d := by ring
  have even := near.even_of_eq_below r' rfl tie
  have even' := near'.even_of_eq_above tie'
  omega

/-- One rank is nearest to a quotient, however it is written. -/
theorem Nearest.unique (near : Nearest n d r) (near' : Nearest n' d' r') (positive : 0 < d)
    (positive' : 0 < d') (same : n * d' = n' * d) : r = r' :=
  le_antisymm (near.le near' positive positive' same.le)
    (near'.le near positive' positive same.ge)

theorem Nearest.of_eq (near : Nearest n d r) (positive : 0 < d) (positive' : 0 < d')
    (same : n * d' = n' * d) : Nearest n' d' r := by
  have found := nearest_nearestRank n' positive'
  rwa [← near.unique found positive positive' same] at found

theorem nearestRank_le_nearestRank (positive : 0 < d) (positive' : 0 < d')
    (le : n * d' ≤ n' * d) : nearestRank n d ≤ nearestRank n' d' :=
  (nearest_nearestRank n positive).le (nearest_nearestRank n' positive') positive positive' le

theorem nearest_unitsAt (r : ℕ) : Nearest (unitsAt r) 1 r := by
  have above : unitsAt r < unitsAt (r + 1) := unitsAt_lt_unitsAt_succ r
  refine ⟨?_, ?_, ?_, ?_⟩
  · unfold midpointAt
    omega
  · intro tie
    unfold midpointAt at tie
    omega
  · rintro s rfl
    have below : unitsAt s < unitsAt (s + 1) := unitsAt_lt_unitsAt_succ s
    unfold midpointAt
    omega
  · rintro s rfl tie
    have below : unitsAt s < unitsAt (s + 1) := unitsAt_lt_unitsAt_succ s
    unfold midpointAt at tie
    omega

theorem le_nearestRank (positive : 0 < d) (le : unitsAt r * d ≤ n) : r ≤ nearestRank n d :=
  (nearest_unitsAt r).le (nearest_nearestRank n positive) Nat.one_pos positive (by omega)

theorem nearestRank_le (positive : 0 < d) (le : n ≤ unitsAt r * d) : nearestRank n d ≤ r :=
  (nearest_nearestRank n positive).le (nearest_unitsAt r) positive Nat.one_pos (by omega)

theorem nearestRank_unitsAt (r : ℕ) : nearestRank (unitsAt r) 1 = r :=
  le_antisymm (nearestRank_le Nat.one_pos (by omega)) (le_nearestRank Nat.one_pos (by omega))

/-- A whole number of units on the grid is kept by rounding. -/
theorem unitsAt_nearestRank_of_dvd {q k : ℕ} (whole : 2 ^ k ∣ q) (below : q < 2 ^ (53 + k)) :
    unitsAt (nearestRank q 1) = q := by
  rw [← unitsAt_floorRank_of_dvd whole below, nearestRank_unitsAt]

/-! ### The error of one rounding -/

/-- The greatest relative error of one rounding on the normal part of the grid. -/
def roundoff : ℚ := 1 / 2 ^ 53

theorem roundoff_pos : 0 < roundoff := by
  norm_num [roundoff]

/-- Rounding up goes at most half the way to the next magnitude, which is half a unit or the
relative error. -/
theorem unitsAt_nearestRank_le_or (n : ℕ) (positive : 0 < d) :
    (unitsAt (nearestRank n d) : ℚ) ≤ n / d + 1 / 2 ∨
      (unitsAt (nearestRank n d) : ℚ) ≤ n / d * (1 + roundoff) := by
  have near := nearest_nearestRank n positive
  have positive' : (0 : ℚ) < d := by exact_mod_cast positive
  cases rank : nearestRank n d with
  | zero =>
    left
    rw [unitsAt_zero]
    positivity
  | succ s =>
    rw [rank] at near
    have below : (midpointAt s : ℚ) ≤ 2 * (n / d) := by
      rw [← mul_div_assoc, le_div_iff₀ positive', mul_comm]
      exact_mod_cast near.below_le s rfl
    rw [midpointAt, unitsAt_succ] at below
    rw [unitsAt_succ]
    rcases gap_le s with gap | gap
    · left
      rw [gap] at below ⊢
      push_cast at below ⊢
      linarith
    · right
      have gap' : (2 ^ 52 * 2 ^ (s / 2 ^ 52 - 1) : ℚ) ≤ unitsAt s := by exact_mod_cast gap
      push_cast at below ⊢
      generalize (2 : ℚ) ^ (s / 2 ^ 52 - 1) = step at below gap' ⊢
      have half : step / 2 ≤ n / d * roundoff := by
        unfold roundoff
        linarith
      linarith

/-- A quotient on the normal part of the grid is exceeded by its relative error at most. -/
theorem unitsAt_nearestRank_le_of_normal (positive : 0 < d) (normal : 2 ^ 52 * d ≤ n) :
    (unitsAt (nearestRank n d) : ℚ) ≤ n / d * (1 + roundoff) := by
  rcases unitsAt_nearestRank_le_or n positive with half | relative
  · have positive' : (0 : ℚ) < d := by exact_mod_cast positive
    have normal' : (2 ^ 52 : ℚ) ≤ n / d := by
      rw [le_div_iff₀ positive']
      exact_mod_cast normal
    have : (1 / 2 : ℚ) ≤ n / d * roundoff := by
      unfold roundoff
      linarith
    linarith
  · exact relative

/-- A whole number of units is exceeded by its relative error at most. -/
theorem unitsAt_nearestRank_one_le (n : ℕ) :
    (unitsAt (nearestRank n 1) : ℚ) ≤ n * (1 + roundoff) := by
  rcases unitsAt_nearestRank_le_or n Nat.one_pos with half | relative
  · rw [Nat.cast_one, div_one] at half
    have whole : unitsAt (nearestRank n 1) ≤ n := by
      rw [← Nat.lt_succ_iff, ← Nat.cast_lt (α := ℚ)]
      push_cast
      linarith
    have whole' : (unitsAt (nearestRank n 1) : ℚ) ≤ n := by exact_mod_cast whole
    have : (0 : ℚ) ≤ n * roundoff := mul_nonneg (Nat.cast_nonneg n) roundoff_pos.le
    linarith
  · rwa [Nat.cast_one, div_one] at relative

/-- Rounding down stays within half the way to the next magnitude, which is half a unit or the
relative error of what is rounded to. -/
theorem le_unitsAt_nearestRank_or (n : ℕ) (positive : 0 < d) :
    (n / d : ℚ) ≤ unitsAt (nearestRank n d) + 1 / 2 ∨
      (n / d : ℚ) ≤ unitsAt (nearestRank n d) * (1 + roundoff) := by
  have near := nearest_nearestRank n positive
  have positive' : (0 : ℚ) < d := by exact_mod_cast positive
  generalize nearestRank n d = r at near ⊢
  have above : (n / d : ℚ) * 2 ≤ midpointAt r := by
    rw [div_mul_eq_mul_div, div_le_iff₀ positive', mul_comm (n : ℚ), mul_comm (midpointAt r : ℚ)]
    exact_mod_cast near.le_above
  rw [midpointAt, unitsAt_succ] at above
  rcases gap_le r with gap | gap
  · left
    rw [gap] at above
    push_cast at above
    linarith
  · right
    have gap' : (2 ^ 52 * 2 ^ (r / 2 ^ 52 - 1) : ℚ) ≤ unitsAt r := by exact_mod_cast gap
    push_cast at above
    generalize (2 : ℚ) ^ (r / 2 ^ 52 - 1) = step at above gap'
    unfold roundoff
    linarith

/-- What falls short of a number by no more than the error relative to the lesser one falls short
by no more than the error relative to the greater one. -/
private theorem mul_one_sub_roundoff_le {x y : ℚ} (nonneg : 0 ≤ y)
    (short : x ≤ y * (1 + roundoff)) : x * (1 - roundoff) ≤ y := by
  have spare : 0 ≤ y * (roundoff * roundoff) :=
    mul_nonneg nonneg (mul_nonneg roundoff_pos.le roundoff_pos.le)
  have factor : 0 ≤ 1 - roundoff := by norm_num [roundoff]
  linarith [mul_le_mul_of_nonneg_right short factor]

/-- A quotient on the normal part of the grid loses its relative error at most. -/
theorem le_unitsAt_nearestRank_of_normal (positive : 0 < d) (normal : 2 ^ 52 * d ≤ n) :
    (n / d : ℚ) * (1 - roundoff) ≤ unitsAt (nearestRank n d) := by
  rcases le_unitsAt_nearestRank_or n positive with half | relative
  · have positive' : (0 : ℚ) < d := by exact_mod_cast positive
    have normal' : (2 ^ 52 : ℚ) ≤ n / d := by
      rw [le_div_iff₀ positive']
      exact_mod_cast normal
    have : (1 / 2 : ℚ) ≤ n / d * roundoff := by
      unfold roundoff
      linarith
    linarith
  · exact mul_one_sub_roundoff_le (Nat.cast_nonneg _) relative

/-- A whole number of units exceeds what it is rounded to by its relative error at most. -/
theorem le_unitsAt_nearestRank_one_mul (n : ℕ) :
    (n : ℚ) ≤ unitsAt (nearestRank n 1) * (1 + roundoff) := by
  rcases le_unitsAt_nearestRank_or n Nat.one_pos with half | relative
  · rw [Nat.cast_one, div_one] at half
    have whole : n ≤ unitsAt (nearestRank n 1) := by
      rw [← Nat.lt_succ_iff, ← Nat.cast_lt (α := ℚ)]
      push_cast
      linarith
    have whole' : (n : ℚ) ≤ unitsAt (nearestRank n 1) := by exact_mod_cast whole
    have : (0 : ℚ) ≤ unitsAt (nearestRank n 1) * roundoff :=
      mul_nonneg (Nat.cast_nonneg _) roundoff_pos.le
    linarith
  · rwa [Nat.cast_one, div_one] at relative

/-- A whole number of units loses its relative error at most. -/
theorem le_unitsAt_nearestRank_one (n : ℕ) :
    (n : ℚ) * (1 - roundoff) ≤ unitsAt (nearestRank n 1) :=
  mul_one_sub_roundoff_le (Nat.cast_nonneg _) (le_unitsAt_nearestRank_one_mul n)

theorem unitsAt_nearestRank_le (n : ℕ) (positive : 0 < d) :
    (unitsAt (nearestRank n d) : ℚ) ≤ n / d * (1 + roundoff) + 1 / 2 := by
  have extra : (0 : ℚ) ≤ n / d * roundoff := mul_nonneg (by positivity) roundoff_pos.le
  rcases unitsAt_nearestRank_le_or n positive with half | relative <;> linarith

theorem mul_le_unitsAt_nearestRank (n : ℕ) (positive : 0 < d) :
    (n / d : ℚ) * (1 - roundoff) ≤ unitsAt (nearestRank n d) + 1 / 2 := by
  rcases le_unitsAt_nearestRank_or n positive with half | relative
  · have extra : (0 : ℚ) ≤ n / d * roundoff := mul_nonneg (by positivity) roundoff_pos.le
    linarith
  · have short := mul_one_sub_roundoff_le (Nat.cast_nonneg _) relative
    linarith

end Rounding

end Floodgate.Binary64
