import Mathlib.Order.Monotone.Basic
import Mathlib.Tactic.Ring
import Floodgate.Binary64.Rounding

/-!
# The grid of magnitudes

The magnitudes of binary64 numbers, counted in units, form a grid that continues without end past
the finite ranks. Neighbours on it are a power of two apart, the same for the `2 ^ 52` ranks of a
block.

## Main results

* `unitsAt_succ` — the distance from a magnitude to the next one
* `unitsAt_floorRank_le`, `lt_unitsAt_floorRank_succ` — a whole number of units lies between the
  magnitude at its floor rank and the next one
* `unitsAt_floorRank_of_dvd` — multiples of a power of two with few enough bits are on the grid
-/

namespace Floodgate.Binary64

theorem unitsAt_strictMono : StrictMono unitsAt :=
  strictMono_nat_of_lt_succ unitsAt_lt_unitsAt_succ

theorem unitsAt_le_unitsAt {r s : ℕ} : unitsAt r ≤ unitsAt s ↔ r ≤ s :=
  unitsAt_strictMono.le_iff_le

theorem unitsAt_lt_unitsAt {r s : ℕ} : unitsAt r < unitsAt s ↔ r < s :=
  unitsAt_strictMono.lt_iff_lt

/-- Ranks from `2 ^ 52` on, as a block and a place within it. -/
theorem exists_block {r : ℕ} (past : 2 ^ 52 ≤ r) :
    ∃ k m, m < 2 ^ 52 ∧ r = (k + 1) * 2 ^ 52 + m :=
  ⟨r / 2 ^ 52 - 1, r % 2 ^ 52, Nat.mod_lt _ (by decide), by omega⟩

theorem unitsAt_succ (r : ℕ) : unitsAt (r + 1) = unitsAt r + 2 ^ (r / 2 ^ 52 - 1) := by
  rcases lt_or_ge r (2 ^ 52) with small | past
  · have gap : r / 2 ^ 52 - 1 = 0 := by omega
    rw [gap, pow_zero, unitsAt_of_lt small]
    rcases lt_or_ge (r + 1) (2 ^ 52) with inside | edge
    · exact unitsAt_of_lt inside
    · obtain rfl : r = 2 ^ 52 - 1 := by omega
      decide
  · obtain ⟨k, m, hm, rfl⟩ := exists_block past
    have gap : ((k + 1) * 2 ^ 52 + m) / 2 ^ 52 - 1 = k := by omega
    rw [gap, unitsAt_block hm]
    rcases lt_or_ge (m + 1) (2 ^ 52) with inside | edge
    · rw [Nat.add_assoc, unitsAt_block inside]
      ring
    · -- The last place of a block is followed by the first place of the next one.
      have next : (k + 1) * 2 ^ 52 + m + 1 = (k + 1 + 1) * 2 ^ 52 + 0 := by omega
      obtain rfl : m = 2 ^ 52 - 1 := by omega
      rw [next, unitsAt_block (by decide)]
      ring

/-- The distance to the next magnitude is at most a `2 ^ 52`nd of the magnitude, or one unit. -/
theorem gap_le (r : ℕ) :
    r / 2 ^ 52 - 1 = 0 ∨ 2 ^ 52 * 2 ^ (r / 2 ^ 52 - 1) ≤ unitsAt r := by
  rcases lt_or_ge r (2 ^ 52) with small | past
  · left
    omega
  · right
    obtain ⟨k, m, hm, rfl⟩ := exists_block past
    have gap : ((k + 1) * 2 ^ 52 + m) / 2 ^ 52 - 1 = k := by omega
    rw [gap, unitsAt_block hm]
    exact Nat.mul_le_mul_right _ (Nat.le_add_right _ _)

/-- A magnitude is fewer than `2 ^ 53` times the distance to the next one. -/
theorem unitsAt_le (r : ℕ) : unitsAt r ≤ (2 ^ 53 - 1) * 2 ^ (r / 2 ^ 52 - 1) := by
  rcases lt_or_ge r (2 ^ 52) with small | past
  · have gap : r / 2 ^ 52 - 1 = 0 := by omega
    rw [gap, unitsAt_of_lt small]
    omega
  · obtain ⟨k, m, hm, rfl⟩ := exists_block past
    have gap : ((k + 1) * 2 ^ 52 + m) / 2 ^ 52 - 1 = k := by omega
    rw [gap, unitsAt_block hm]
    exact Nat.mul_le_mul_right _ (by omega)

/-! ### Floor ranks -/

theorem lt_two_pow_spacingLog (q : ℕ) : q < 2 ^ (53 + spacingLog q) := by
  rcases Nat.eq_zero_or_pos q with rfl | positive
  · exact Nat.two_pow_pos _
  · refine Nat.lt_of_lt_of_le (Nat.log2_lt (by omega) |>.1 (Nat.lt_succ_self _)) ?_
    exact Nat.pow_le_pow_right (by decide) (by unfold spacingLog; omega)

theorem spacingLog_le {q k : ℕ} (below : q < 2 ^ (53 + k)) : spacingLog q ≤ k := by
  rcases Nat.eq_zero_or_pos q with rfl | positive
  · exact Nat.zero_le _
  · have := (Nat.log2_lt (by omega)).2 below
    unfold spacingLog
    omega

/-- The floor rank as a block and a place: whole steps of the spacing are kept. -/
theorem floorRank_eq_block {q : ℕ} (large : 2 ^ 52 ≤ q) :
    ∃ m, m < 2 ^ 52 ∧ q / 2 ^ spacingLog q = 2 ^ 52 + m ∧
      floorRank q = (spacingLog q + 1) * 2 ^ 52 + m := by
  have lower : 2 ^ 52 ≤ q / 2 ^ spacingLog q := by
    rw [Nat.le_div_iff_mul_le (Nat.two_pow_pos _), ← pow_add]
    have bits : 52 ≤ q.log2 := (Nat.le_log2 (by omega)).2 large
    have exponent : 52 + spacingLog q = q.log2 := by unfold spacingLog; omega
    rw [exponent]
    exact Nat.log2_self_le (by omega)
  have upper : q / 2 ^ spacingLog q < 2 ^ 53 := by
    rw [Nat.div_lt_iff_lt_mul (Nat.two_pow_pos _), ← pow_add]
    exact lt_two_pow_spacingLog q
  refine ⟨q / 2 ^ spacingLog q - 2 ^ 52, by omega, by omega, ?_⟩
  unfold floorRank
  omega

theorem unitsAt_floorRank (q : ℕ) :
    unitsAt (floorRank q) = q / 2 ^ spacingLog q * 2 ^ spacingLog q := by
  rcases lt_or_ge q (2 ^ 52) with small | large
  · have spacing : spacingLog q = 0 := Nat.le_zero.1 (spacingLog_le (by omega))
    rw [floorRank_of_lt (by omega), unitsAt_of_lt small, spacing]
    omega
  · obtain ⟨m, hm, quotient, rank⟩ := floorRank_eq_block large
    rw [rank, unitsAt_block hm, quotient]

theorem unitsAt_floorRank_succ (q : ℕ) :
    unitsAt (floorRank q + 1) = unitsAt (floorRank q) + 2 ^ spacingLog q := by
  have gap : floorRank q / 2 ^ 52 - 1 = spacingLog q := by
    rcases lt_or_ge q (2 ^ 52) with small | large
    · have spacing : spacingLog q = 0 := Nat.le_zero.1 (spacingLog_le (by omega))
      rw [floorRank_of_lt (by omega), spacing]
      omega
    · obtain ⟨m, hm, -, rank⟩ := floorRank_eq_block large
      omega
  rw [unitsAt_succ, gap]

theorem unitsAt_floorRank_le (q : ℕ) : unitsAt (floorRank q) ≤ q := by
  rw [unitsAt_floorRank]
  exact Nat.div_mul_le_self _ _

theorem lt_unitsAt_floorRank_succ (q : ℕ) : q < unitsAt (floorRank q + 1) := by
  rw [unitsAt_floorRank_succ, unitsAt_floorRank]
  exact Nat.lt_div_mul_add (Nat.two_pow_pos _)

/-- A number with at most 53 bits before its last zeros is a magnitude. -/
theorem unitsAt_floorRank_of_dvd {q k : ℕ} (whole : 2 ^ k ∣ q) (below : q < 2 ^ (53 + k)) :
    unitsAt (floorRank q) = q := by
  rw [unitsAt_floorRank]
  exact Nat.div_mul_cancel ((Nat.pow_dvd_pow 2 (spacingLog_le below)).trans whole)

end Floodgate.Binary64
