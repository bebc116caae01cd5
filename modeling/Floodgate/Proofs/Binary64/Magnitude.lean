import Mathlib.Data.Rat.Floor
import Floodgate.Binary64.Arithmetic
import Floodgate.Proofs.Binary64.Nearest

/-!
# Arithmetic on magnitudes

Numbers without a sign are told by their ranks alone, positive infinity by any rank that is not
finite. On them each operation is one on ranks, so that order and error bounds carry over from the
grid.

## Main definitions

* `toRat` — the exact value of a finite number
* `rank` — the rank of a finite number
* `wholeRank` — the rank of a whole number
* `Within` — between positive zero and a whole number

## Main results

* `ofRank_add`, `ofRank_mul`, `clamp_ofRank` — the operations on ranks
* `ofRank_sub_one`, `unitsAt_sub_one` — one is taken away without rounding
* `Within.floorBelow_eq` — the whole part of a number within bounds
-/

namespace Floodgate.Binary64

/-- The exact value of a finite number; zero for the others. -/
def toRat (x : Binary64) : ℚ := x.units / unitsPerOne

/-- The rank of a finite number; zero for the others. -/
def rank : Binary64 → ℕ
  | .finite _ r _ => r
  | _ => 0

/-- The rank of a whole number. -/
def wholeRank (n : ℕ) : ℕ := nearestRank (n * unitsPerOne) 1

section Ranks

variable {a b r s : ℕ}

/-- One as a power of two units, with the exponent kept from being evaluated. -/
theorem exists_unitsPerOne : ∃ e, e = 1074 ∧ unitsPerOne = 2 ^ e := ⟨1074, rfl, by decide +kernel⟩

theorem unitsPerOne_pos : 0 < unitsPerOne := by
  obtain ⟨e, -, unit⟩ := exists_unitsPerOne
  rw [unit]
  exact Nat.two_pow_pos e

theorem ofRank_of_lt (finite : r < 2047 * 2 ^ 52) : ofRank false r = .finite false r finite :=
  dif_pos finite

theorem ofRank_of_le (past : 2047 * 2 ^ 52 ≤ r) : ofRank false r = .infinite false :=
  dif_neg (Nat.not_lt.2 past)

theorem rank_ofRank (finite : r < 2047 * 2 ^ 52) : (ofRank false r).rank = r := by
  rw [ofRank_of_lt finite]
  rfl

theorem units_ofRank (finite : r < 2047 * 2 ^ 52) : (ofRank false r).units = unitsAt r := by
  rw [ofRank_of_lt finite]
  rfl

theorem toRat_ofRank (finite : r < 2047 * 2 ^ 52) :
    (ofRank false r).toRat = unitsAt r / unitsPerOne := by
  rw [toRat, units_ofRank finite, Int.cast_natCast]

theorem isFinite_ofRank (finite : r < 2047 * 2 ^ 52) : (ofRank false r).isFinite = true := by
  rw [ofRank_of_lt finite]
  rfl

theorem position_ofRank (r : ℕ) :
    (ofRank false r).position = some ((min r (2047 * 2 ^ 52) : ℕ) : ℤ) := by
  rcases lt_or_ge r (2047 * 2 ^ 52) with finite | past
  · rw [ofRank_of_lt finite, min_eq_left finite.le]
    rfl
  · rw [ofRank_of_le past, min_eq_right past]
    rfl

theorem le_ofRank (finite : b < 2047 * 2 ^ 52) :
    (ofRank false a).le (ofRank false b) = decide (a ≤ b) := by
  rw [le, position_ofRank, position_ofRank]
  exact decide_eq_decide.2 (by omega)

theorem lt_ofRank (finite : a < 2047 * 2 ^ 52) :
    (ofRank false a).lt (ofRank false b) = decide (a < b) := by
  rw [lt, position_ofRank, position_ofRank]
  exact decide_eq_decide.2 (by omega)

theorem zero_eq_ofRank : zero = ofRank false 0 := (ofRank_of_lt (by decide)).symm

theorem one_eq_ofRank : one = ofRank false (1023 * 2 ^ 52) := (ofRank_of_lt (by decide)).symm

theorem unitsAt_one : unitsAt (1023 * 2 ^ 52) = unitsPerOne := by decide +kernel

/-! ### Operations -/

/-- A sum of finite numbers that is not negative. -/
theorem add_eq_ofRank {s t : Bool} {n : ℕ} (ha : a < 2047 * 2 ^ 52) (hb : b < 2047 * 2 ^ 52)
    (sign : (s && t) = false)
    (total : (finite s a ha).units + (finite t b hb).units = (n : ℤ)) :
    finite s a ha + finite t b hb = ofRank false (nearestRank n 1) := by
  change (if (finite s a ha).units + (finite t b hb).units = 0
    then finite (s && t) 0 zero_lt_infinity
    else ofUnits (decide ((finite s a ha).units + (finite t b hb).units < 0))
      ((finite s a ha).units + (finite t b hb).units).natAbs 1) = _
  rw [total, sign]
  split_ifs with cancel
  · obtain rfl : n = 0 := Int.natCast_eq_zero.1 cancel
    rw [nearestRank_zero]
    exact zero_eq_ofRank
  · rw [decide_eq_false (by omega : ¬(n : ℤ) < 0), Int.natAbs_natCast, ofUnits]

/-- The sum of two magnitudes is the rounded sum of their units, also past the finite ranks. -/
theorem ofRank_add (a b : ℕ) :
    ofRank false a + ofRank false b = ofRank false (nearestRank (unitsAt a + unitsAt b) 1) := by
  have left : a ≤ nearestRank (unitsAt a + unitsAt b) 1 := le_nearestRank Nat.one_pos (by omega)
  have right : b ≤ nearestRank (unitsAt a + unitsAt b) 1 := le_nearestRank Nat.one_pos (by omega)
  rcases lt_or_ge a (2047 * 2 ^ 52) with ha | ha
  · rcases lt_or_ge b (2047 * 2 ^ 52) with hb | hb
    · rw [ofRank_of_lt ha, ofRank_of_lt hb]
      exact add_eq_ofRank ha hb rfl (Nat.cast_add _ _).symm
    · rw [ofRank_of_lt ha, ofRank_of_le hb, ofRank_of_le (hb.trans right)]
      rfl
  · rw [ofRank_of_le ha, ofRank_of_le (ha.trans left)]
    rcases lt_or_ge b (2047 * 2 ^ 52) with hb | hb
    · rw [ofRank_of_lt hb]
      rfl
    · rw [ofRank_of_le hb]
      rfl

theorem ofRank_mul (ha : a < 2047 * 2 ^ 52) (hb : b < 2047 * 2 ^ 52) :
    ofRank false a * ofRank false b =
      ofRank false (nearestRank (unitsAt a * unitsAt b) unitsPerOne) := by
  change mul _ _ = _
  rw [ofRank_of_lt ha, ofRank_of_lt hb, mul, ofUnits, Bool.xor_false]

theorem clamp_ofRank (finite : b < 2047 * 2 ^ 52) :
    (ofRank false a).clamp zero (ofRank false b) = ofRank false (min a b) := by
  have above : (ofRank false a).lt zero = false := by
    rw [zero_eq_ofRank, lt, position_ofRank, position_ofRank]
    exact decide_eq_false (by omega)
  rw [clamp, above, lt_ofRank finite]
  rcases lt_or_ge b a with greater | fits
  · simp [greater, min_eq_right greater.le]
  · simp [Nat.not_lt.2 fits, min_eq_left fits]

theorem floorBelow_ofRank (finite : a < 2047 * 2 ^ 52) (limit : ℕ) :
    (ofRank false a).floorBelow limit = min limit (unitsAt a / unitsPerOne) := by
  rw [ofRank_of_lt finite]
  rfl

/-- Taking one away from at least one. -/
theorem ofRank_sub_one (finite : a < 2047 * 2 ^ 52) (whole : 1023 * 2 ^ 52 ≤ a) :
    ofRank false a - one = ofRank false (nearestRank (unitsAt a - unitsPerOne) 1) := by
  have enough : unitsPerOne ≤ unitsAt a := by
    rw [← unitsAt_one]
    exact unitsAt_le_unitsAt.2 whole
  rw [ofRank_of_lt finite]
  apply add_eq_ofRank finite (by decide : 1023 * 2 ^ 52 < 2047 * 2 ^ 52) rfl
  change (unitsAt a : ℤ) + -(unitsAt (1023 * 2 ^ 52) : ℤ) = _
  rw [unitsAt_one]
  omega

theorem mul_two_pow_lt {n p : ℕ} (k : ℕ) (small : n < 2 ^ p) : n * 2 ^ k < 2 ^ (p + k) := by
  rw [pow_add]
  exact Nat.mul_lt_mul_of_pos_right small (Nat.two_pow_pos k)

/-- The spacing of the grid below `2 ^ 53` divides one. -/
theorem unitsAt_sub_one (below : unitsAt a < 2 ^ 53 * unitsPerOne) :
    unitsAt (nearestRank (unitsAt a - unitsPerOne) 1) = unitsAt a - unitsPerOne := by
  rcases lt_or_ge a (2 ^ 52) with small | past
  · rw [unitsAt_of_lt small]
    -- The spacing is a single unit.
    apply unitsAt_nearestRank_of_dvd (k := 0) (one_dvd _)
    omega
  · obtain ⟨e, -, unit⟩ := exists_unitsPerOne
    obtain ⟨k, m, hm, rfl⟩ := exists_block past
    have size := unitsAt_block (k := k) hm
    rw [unit] at below ⊢
    -- The spacing is `2 ^ k`, and a magnitude with a greater one than `2 ^ e` is not below.
    have step : k ≤ e := by
      have least : 2 ^ (52 + k) ≤ unitsAt ((k + 1) * 2 ^ 52 + m) := by
        rw [size, pow_add]
        exact Nat.mul_le_mul_right _ (Nat.le_add_right _ _)
      have bound := least.trans_lt below
      rw [← pow_add] at bound
      have := (Nat.pow_lt_pow_iff_right (by decide)).1 bound
      omega
    apply unitsAt_nearestRank_of_dvd (k := k)
    · exact Nat.dvd_sub (size ▸ Nat.dvd_mul_left _ _) (Nat.pow_dvd_pow 2 step)
    · refine lt_of_le_of_lt (Nat.sub_le _ _) ?_
      rw [size]
      exact mul_two_pow_lt k (by omega)

/-! ### Whole numbers -/

theorem ofNat_eq_ofRank (n : ℕ) : ofNat n = ofRank false (wholeRank n) := rfl

theorem unitsAt_wholeRank {n : ℕ} (small : n < 2 ^ 53) :
    unitsAt (wholeRank n) = n * unitsPerOne := by
  obtain ⟨e, -, unit⟩ := exists_unitsPerOne
  rw [wholeRank, unit]
  exact unitsAt_nearestRank_of_dvd (Nat.dvd_mul_left _ _) (mul_two_pow_lt e small)

/-- Whole numbers below `2 ^ 53` are far from the first magnitude past the finite ones. -/
theorem wholeRank_le_wholeRank {m n : ℕ} (le : m ≤ n) : wholeRank m ≤ wholeRank n :=
  nearestRank_le_nearestRank Nat.one_pos Nat.one_pos
    (Nat.mul_le_mul_right 1 (Nat.mul_le_mul_right _ le))

theorem wholeRank_lt {n : ℕ} (small : n < 2 ^ 53) : wholeRank n < 2047 * 2 ^ 52 := by
  have first : 2 ^ 53 * unitsPerOne ≤ unitsAt (2047 * 2 ^ 52) := by decide +kernel
  rw [← unitsAt_lt_unitsAt, unitsAt_wholeRank small]
  exact (Nat.mul_lt_mul_of_pos_right small unitsPerOne_pos).trans_le first

theorem toRat_ofNat {n : ℕ} (small : n < 2 ^ 53) : (ofNat n).toRat = n := by
  rw [ofNat_eq_ofRank, toRat_ofRank (wholeRank_lt small), unitsAt_wholeRank small, Nat.cast_mul]
  exact mul_div_cancel_right₀ _ (by exact_mod_cast unitsPerOne_pos.ne')

end Ranks

/-! ### Numbers within bounds -/

/-- From positive zero to a whole number. -/
structure Within (n : ℕ) (x : Binary64) : Prop where
  eq_ofRank : x = ofRank false x.rank
  rank_le : x.rank ≤ wholeRank n

namespace Within

variable {n : ℕ} {x : Binary64}

theorem of_rank {r : ℕ} (small : n < 2 ^ 53) (le : r ≤ wholeRank n) :
    Within n (ofRank false r) := by
  have finite := le.trans_lt (wholeRank_lt small)
  exact ⟨by rw [rank_ofRank finite], by rwa [rank_ofRank finite]⟩

theorem ofNat (small : n < 2 ^ 53) : Within n (ofNat n) := of_rank small le_rfl

theorem rank_lt (within : Within n x) (small : n < 2 ^ 53) : x.rank < 2047 * 2 ^ 52 :=
  within.rank_le.trans_lt (wholeRank_lt small)

theorem isFinite (within : Within n x) (small : n < 2 ^ 53) : x.isFinite = true := by
  rw [within.eq_ofRank]
  exact isFinite_ofRank (within.rank_lt small)

theorem zero_le (within : Within n x) (small : n < 2 ^ 53) : zero.le x = true := by
  rw [within.eq_ofRank, zero_eq_ofRank, le_ofRank (within.rank_lt small)]
  exact decide_eq_true (Nat.zero_le _)

theorem le_ofNat (within : Within n x) (small : n < 2 ^ 53) :
    x.le (Binary64.ofNat n) = true := by
  rw [within.eq_ofRank, ofNat_eq_ofRank, le_ofRank (wholeRank_lt small)]
  exact decide_eq_true within.rank_le

theorem toRat_eq (within : Within n x) (small : n < 2 ^ 53) :
    x.toRat = unitsAt x.rank / unitsPerOne := by
  rw [within.eq_ofRank, toRat_ofRank (within.rank_lt small), rank_ofRank (within.rank_lt small)]

theorem toRat_nonneg (within : Within n x) (small : n < 2 ^ 53) : 0 ≤ x.toRat := by
  rw [within.toRat_eq small]
  exact div_nonneg (Nat.cast_nonneg _) (Nat.cast_nonneg _)

theorem unitsAt_le (within : Within n x) (small : n < 2 ^ 53) :
    unitsAt x.rank ≤ n * unitsPerOne :=
  (unitsAt_le_unitsAt.2 within.rank_le).trans_eq (unitsAt_wholeRank small)

theorem toRat_le (within : Within n x) (small : n < 2 ^ 53) : x.toRat ≤ n := by
  rw [within.toRat_eq small, div_le_iff₀ (by exact_mod_cast unitsPerOne_pos)]
  exact_mod_cast within.unitsAt_le small

/-- The whole part is exact while the limit is not below the bound. -/
theorem floorBelow_eq (within : Within n x) (small : n < 2 ^ 53) {limit : ℕ} (le : n ≤ limit) :
    (x.floorBelow limit : ℤ) = ⌊x.toRat⌋ := by
  have part : unitsAt x.rank / unitsPerOne ≤ limit :=
    (Nat.div_le_of_le_mul ((within.unitsAt_le small).trans_eq (Nat.mul_comm _ _))).trans le
  rw [within.toRat_eq small, Rat.floor_natCast_div_natCast]
  conv_lhs => rw [within.eq_ofRank, floorBelow_ofRank (within.rank_lt small), min_eq_right part]
  exact Int.natCast_div _ _

/-- A whole one can be taken from a number exactly when its rank is not below that of one. -/
theorem one_le_iff (within : Within n x) (small : n < 2 ^ 53) :
    one.le x = true ↔ 1023 * 2 ^ 52 ≤ x.rank := by
  rw [within.eq_ofRank, one_eq_ofRank, le_ofRank (within.rank_lt small), decide_eq_true_eq,
    rank_ofRank (within.rank_lt small)]

/-- A whole one can be taken from a number exactly when its value is not below one. -/
theorem one_le_iff_one_le_toRat (within : Within n x) (small : n < 2 ^ 53) :
    one.le x = true ↔ 1 ≤ x.toRat := by
  rw [within.one_le_iff small, within.toRat_eq small,
    one_le_div (by exact_mod_cast unitsPerOne_pos), ← unitsAt_le_unitsAt, unitsAt_one]
  exact Nat.cast_le.symm

theorem unitsAt_rank_sub_one (within : Within n x) (small : n < 2 ^ 53) :
    unitsAt (nearestRank (unitsAt x.rank - unitsPerOne) 1) = unitsAt x.rank - unitsPerOne :=
  unitsAt_sub_one ((within.unitsAt_le small).trans_lt
    (Nat.mul_lt_mul_of_pos_right small unitsPerOne_pos))

theorem rank_sub_one_le (within : Within n x) (small : n < 2 ^ 53) :
    nearestRank (unitsAt x.rank - unitsPerOne) 1 ≤ x.rank := by
  rw [← unitsAt_le_unitsAt, within.unitsAt_rank_sub_one small]
  exact Nat.sub_le _ _

section TakeOne

variable (within : Within n x) (small : n < 2 ^ 53) (whole : one.le x = true)

include within small whole

theorem sub_one_eq : x - one = ofRank false (nearestRank (unitsAt x.rank - unitsPerOne) 1) := by
  conv_lhs => rw [within.eq_ofRank]
  exact ofRank_sub_one (within.rank_lt small) ((within.one_le_iff small).1 whole)

theorem sub_one : Within n (x - one) := by
  rw [within.sub_one_eq small whole]
  exact of_rank small ((within.rank_sub_one_le small).trans within.rank_le)

/-- Taking one away is exact. -/
theorem toRat_sub_one : (x - one).toRat = x.toRat - 1 := by
  have enough : unitsPerOne ≤ unitsAt x.rank := by
    rw [← unitsAt_one]
    exact unitsAt_le_unitsAt.2 ((within.one_le_iff small).1 whole)
  have nonzero : (unitsPerOne : ℚ) ≠ 0 := by exact_mod_cast unitsPerOne_pos.ne'
  have finite := (within.rank_sub_one_le small).trans_lt (within.rank_lt small)
  rw [within.sub_one_eq small whole, toRat_ofRank finite, within.toRat_eq small,
    within.unitsAt_rank_sub_one small, Nat.cast_sub enough, sub_div, div_self nonzero]

end TakeOne

end Within

end Floodgate.Binary64
