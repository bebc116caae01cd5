import Floodgate.Proofs.Binary64.Magnitude

/-!
# The order of binary64 numbers

All numbers but NaN stand on a line, an infinity at each end. Sums and clamped numbers keep that
order whatever the signs, as long as they are numbers: a sum is the nearest position to its exact
units, and exact units are in the order of the positions.

## Main definitions

* `nearestPosition` — where a signed whole number of units is rounded to

## Main results

* `units_le_units` — finite numbers are in the order of their units
* `position_add` — where the sum of finite numbers stands
* `add_mono` — sums are in the order of what is added
* `clamp_le_clamp` — so are clamped numbers
-/

namespace Floodgate.Binary64

variable {x y z x' y' low high : Binary64}

/-! ### Positions -/

theorem exists_position (number : x ≠ .nan) : ∃ a, x.position = some a := by
  cases x with
  | nan => exact absurd rfl number
  | infinite negative => cases negative <;> exact ⟨_, rfl⟩
  | finite negative r finite => cases negative <;> exact ⟨_, rfl⟩

theorem le_iff_position :
    x.le y = true ↔ ∃ a b, x.position = some a ∧ y.position = some b ∧ a ≤ b := by
  unfold le
  cases x.position <;> cases y.position <;> simp

theorem ne_nan_of_le (le : x.le y = true) : x ≠ .nan ∧ y ≠ .nan := by
  obtain ⟨a, b, left, right, -⟩ := le_iff_position.1 le
  constructor <;> rintro rfl
  · cases left
  · cases right

theorem le_self (number : x ≠ .nan) : x.le x = true := by
  obtain ⟨a, stands⟩ := exists_position number
  exact le_iff_position.2 ⟨a, a, stands, stands, le_rfl⟩

theorem le_of_le_le (first : x.le y = true) (second : y.le z = true) : x.le z = true := by
  obtain ⟨a, b, left, middle, below⟩ := le_iff_position.1 first
  obtain ⟨b', c, middle', right, above⟩ := le_iff_position.1 second
  obtain rfl := Option.some.inj (middle.symm.trans middle')
  exact le_iff_position.2 ⟨a, c, left, right, below.trans above⟩

/-- The infinities are the two ends of the line. -/
theorem position_bounds {a : ℤ} (stands : x.position = some a) :
    -(2047 * 2 ^ 52) ≤ a ∧ a ≤ 2047 * 2 ^ 52 := by
  cases x with
  | nan => cases stands
  | infinite negative => cases negative <;> cases stands <;> decide
  | finite negative r finite => cases negative <;> cases stands <;> omega

theorem negative_infinity_le (number : x ≠ .nan) : (infinite true).le x = true := by
  obtain ⟨a, stands⟩ := exists_position number
  exact le_iff_position.2 ⟨_, a, rfl, stands, (position_bounds stands).1⟩

theorem le_infinity (number : x ≠ .nan) : x.le (infinite false) = true := by
  obtain ⟨a, stands⟩ := exists_position number
  exact le_iff_position.2 ⟨a, _, stands, rfl, (position_bounds stands).2⟩

/-- Finite is what stands between the two ends. -/
theorem isFinite_iff {a : ℤ} (stands : x.position = some a) :
    x.isFinite = true ↔ -(2047 * 2 ^ 52) < a ∧ a < 2047 * 2 ^ 52 := by
  cases x with
  | nan => cases stands
  | infinite negative => cases negative <;> cases stands <;> decide
  | finite negative r finite =>
    refine iff_of_true rfl ?_
    cases negative <;> cases stands <;> omega

theorem lt_position {a : ℤ} (stands : x.position = some a) (ne : x ≠ infinite true) :
    -(2047 * 2 ^ 52) < a := by
  cases x with
  | nan => cases stands
  | infinite negative =>
    cases negative with
    | true => exact absurd rfl ne
    | false =>
      cases stands
      decide
  | finite => exact ((isFinite_iff stands).1 rfl).1

theorem position_lt {a : ℤ} (stands : x.position = some a) (ne : x ≠ infinite false) :
    a < 2047 * 2 ^ 52 := by
  cases x with
  | nan => cases stands
  | infinite negative =>
    cases negative with
    | true =>
      cases stands
      decide
    | false => exact absurd rfl ne
  | finite => exact ((isFinite_iff stands).1 rfl).2

theorem ne_negative_infinity_of_le (le : x.le y = true) (ne : x ≠ infinite true) :
    y ≠ infinite true := by
  obtain ⟨a, b, left, right, order⟩ := le_iff_position.1 le
  rintro rfl
  cases right
  exact absurd (lt_position left ne) (not_lt.2 order)

/-- Numbers in order are finite unless the lower one is at the lower end, or the higher one at the
higher end. -/
theorem isFinite_of_le (le : x.le y = true) (below : x ≠ infinite true)
    (above : y ≠ infinite false) : x.isFinite = true ∧ y.isFinite = true := by
  obtain ⟨a, b, left, right, order⟩ := le_iff_position.1 le
  have bottom := lt_position left below
  have top := position_lt right above
  exact ⟨(isFinite_iff left).2 ⟨bottom, order.trans_lt top⟩,
    (isFinite_iff right).2 ⟨bottom.trans_le order, top⟩⟩

/-! ### Units -/

theorem units_le_units (le : x.le y = true) (finite : x.isFinite = true)
    (finite' : y.isFinite = true) : x.units ≤ y.units := by
  obtain ⟨a, b, left, right, order⟩ := le_iff_position.1 le
  cases x with
  | nan | infinite => cases finite
  | finite s r hr =>
    cases y with
    | nan | infinite => cases finite'
    | finite t q hq =>
      cases s <;> cases t <;> cases left <;> cases right
      · have ranks : r ≤ q := by omega
        exact Int.ofNat_le.2 (unitsAt_le_unitsAt.2 ranks)
      · obtain ⟨rfl, rfl⟩ : r = 0 ∧ q = 0 := by omega
        rfl
      · have nonneg : (0 : ℤ) ≤ unitsAt r + unitsAt q := by positivity
        change -(unitsAt r : ℤ) ≤ unitsAt q
        omega
      · have ranks : q ≤ r := by omega
        exact Int.neg_le_neg (Int.ofNat_le.2 (unitsAt_le_unitsAt.2 ranks))

/-- Where a signed whole number of units is rounded to. -/
def nearestPosition (n : ℤ) : ℤ :=
  n.sign * (min (nearestRank n.natAbs 1) (2047 * 2 ^ 52) : ℕ)

theorem nearestPosition_of_nonneg (n : ℕ) :
    nearestPosition n = (min (nearestRank n 1) (2047 * 2 ^ 52) : ℕ) := by
  rcases Nat.eq_zero_or_pos n with rfl | positive
  · rw [nearestRank_zero]
    rfl
  · rw [nearestPosition, Int.natAbs_natCast, Int.sign_eq_one_of_pos (by omega), one_mul]

theorem nearestPosition_neg (n : ℤ) : nearestPosition (-n) = -nearestPosition n := by
  rw [nearestPosition, nearestPosition, Int.natAbs_neg, Int.sign_neg, neg_mul]

theorem nearestPosition_natCast_le {m n : ℕ} (le : m ≤ n) :
    nearestPosition m ≤ nearestPosition n := by
  have ranks : nearestRank m 1 ≤ nearestRank n 1 :=
    nearestRank_le_nearestRank Nat.one_pos Nat.one_pos (Nat.mul_le_mul_right 1 le)
  rw [nearestPosition_of_nonneg, nearestPosition_of_nonneg]
  omega

theorem nearestPosition_le {m n : ℤ} (le : m ≤ n) : nearestPosition m ≤ nearestPosition n := by
  obtain ⟨k, rfl | rfl⟩ := m.eq_nat_or_neg
  · obtain ⟨l, rfl⟩ := Int.eq_ofNat_of_zero_le ((Int.natCast_nonneg k).trans le)
    exact nearestPosition_natCast_le (Int.ofNat_le.1 le)
  · obtain ⟨l, rfl | rfl⟩ := n.eq_nat_or_neg
    · rw [nearestPosition_neg, nearestPosition_of_nonneg, nearestPosition_of_nonneg]
      omega
    · rw [nearestPosition_neg, nearestPosition_neg]
      exact Int.neg_le_neg (nearestPosition_natCast_le (by omega))

theorem position_ofRank_negative (r : ℕ) :
    (ofRank true r).position = some (-(min r (2047 * 2 ^ 52) : ℕ) : ℤ) := by
  unfold ofRank
  split_ifs with finite
  · rw [min_eq_left finite.le]
    rfl
  · rw [min_eq_right (Nat.not_lt.1 finite)]
    rfl

/-! ### Sums -/

/-- The sum of finite numbers stands where its exact units are rounded to. -/
theorem position_add (finite : x.isFinite = true) (finite' : y.isFinite = true) :
    (x + y).position = some (nearestPosition (x.units + y.units)) := by
  cases x with
  | nan | infinite => cases finite
  | finite s r hr =>
    cases y with
    | nan | infinite => cases finite'
    | finite t q hq =>
      change (if (Binary64.finite s r hr).units + (Binary64.finite t q hq).units = 0
        then Binary64.finite (s && t) 0 zero_lt_infinity
        else ofUnits
          (decide ((Binary64.finite s r hr).units + (Binary64.finite t q hq).units < 0))
          ((Binary64.finite s r hr).units + (Binary64.finite t q hq).units).natAbs 1).position = _
      generalize (Binary64.finite s r hr).units + (Binary64.finite t q hq).units = total
      split_ifs with cancel
      · subst cancel
        cases s && t <;> rfl
      · rcases lt_or_ge total 0 with negative | nonneg
        · rw [decide_eq_true negative, ofUnits, position_ofRank_negative]
          obtain ⟨n, rfl⟩ : ∃ n : ℕ, total = -n := ⟨total.natAbs, by omega⟩
          rw [Int.natAbs_neg, Int.natAbs_natCast, nearestPosition_neg, nearestPosition_of_nonneg]
        · rw [decide_eq_false nonneg.not_gt, ofUnits, position_ofRank]
          obtain ⟨n, rfl⟩ := Int.eq_ofNat_of_zero_le nonneg
          rw [Int.natAbs_natCast, nearestPosition_of_nonneg]

theorem negative_infinity_add (number : infinite true + y ≠ .nan) :
    infinite true + y = infinite true := by
  cases y with
  | nan => exact absurd rfl number
  | infinite t =>
    cases t with
    | true => rfl
    | false => exact absurd rfl number
  | finite => rfl

theorem infinity_add (number : infinite false + y ≠ .nan) :
    infinite false + y = infinite false := by
  cases y with
  | nan => exact absurd rfl number
  | infinite t =>
    cases t with
    | true => exact absurd rfl number
    | false => rfl
  | finite => rfl

theorem add_swap (x y : Binary64) : x + y = y + x := by
  cases x with
  | nan => cases y <;> rfl
  | infinite s =>
    cases y with
    | nan => rfl
    | infinite t => cases s <;> cases t <;> rfl
    | finite => rfl
  | finite s r hr =>
    cases y with
    | nan | infinite => rfl
    | finite t q hq =>
      change add _ _ = add _ _
      simp only [add, Int.add_comm (units (finite s r hr)), Bool.and_comm s]

/-- Sums that are numbers are in the order of what is added. -/
theorem add_mono (left : x.le x' = true) (right : y.le y' = true) (number : x + y ≠ .nan)
    (number' : x' + y' ≠ .nan) : (x + y).le (x' + y') = true := by
  by_cases bottom : x + y = infinite true
  · rw [bottom]
    exact negative_infinity_le number'
  by_cases top : x' + y' = infinite false
  · rw [top]
    exact le_infinity number
  -- Away from the ends of the line all four are finite, and their units count.
  have below : x ≠ infinite true := by
    rintro rfl
    exact bottom (negative_infinity_add number)
  have below' : y ≠ infinite true := by
    rintro rfl
    rw [add_swap] at bottom number
    exact bottom (negative_infinity_add number)
  have above : x' ≠ infinite false := by
    rintro rfl
    exact top (infinity_add number')
  have above' : y' ≠ infinite false := by
    rintro rfl
    rw [add_swap] at top number'
    exact top (infinity_add number')
  obtain ⟨finite, finite'⟩ := isFinite_of_le left below above
  obtain ⟨rest_finite, rest_finite'⟩ := isFinite_of_le right below' above'
  refine le_iff_position.2 ⟨_, _, position_add finite rest_finite,
    position_add finite' rest_finite', nearestPosition_le ?_⟩
  exact Int.add_le_add (units_le_units left finite finite')
    (units_le_units right rest_finite rest_finite')

/-- Only opposite infinities have no sum. -/
theorem add_ne_nan (number : x ≠ .nan) (number' : y ≠ .nan) (above : x ≠ infinite true)
    (above' : y ≠ infinite true) : x + y ≠ .nan := by
  cases x with
  | nan => exact absurd rfl number
  | infinite s =>
    cases s with
    | true => exact absurd rfl above
    | false =>
      cases y with
      | nan => exact absurd rfl number'
      | infinite t =>
        cases t with
        | true => exact absurd rfl above'
        | false => rintro ⟨⟩
      | finite => rintro ⟨⟩
  | finite s r hr =>
    cases y with
    | nan => exact absurd rfl number'
    | infinite t => rintro ⟨⟩
    | finite t q hq =>
      intro eq_nan
      have stands := position_add (x := finite s r hr) (y := finite t q hq) rfl rfl
      rw [eq_nan] at stands
      cases stands

/-! ### Clamped numbers -/

theorem clamp_bounds (bounds : low.le high = true) (number : x ≠ .nan) :
    low.le (x.clamp low high) = true ∧ (x.clamp low high).le high = true := by
  obtain ⟨l, h, low_at, high_at, order⟩ := le_iff_position.1 bounds
  obtain ⟨a, stands⟩ := exists_position number
  simp only [clamp, lt, stands, low_at, high_at, decide_eq_true_eq]
  split_ifs with below above
  · exact ⟨le_iff_position.2 ⟨l, l, low_at, low_at, le_rfl⟩, bounds⟩
  · exact ⟨bounds, le_iff_position.2 ⟨h, h, high_at, high_at, le_rfl⟩⟩
  · exact ⟨le_iff_position.2 ⟨l, a, low_at, stands, not_lt.1 below⟩,
      le_iff_position.2 ⟨a, h, stands, high_at, not_lt.1 above⟩⟩

/-- What is within the bounds is not changed. -/
theorem clamp_eq_self (above : low.le x = true) (below : x.le high = true) :
    x.clamp low high = x := by
  obtain ⟨l, a, low_at, stands, le⟩ := le_iff_position.1 above
  obtain ⟨a', h, stands', high_at, le'⟩ := le_iff_position.1 below
  obtain rfl := Option.some.inj (stands.symm.trans stands')
  simp only [clamp, lt, stands, low_at, high_at, decide_eq_true_eq]
  rw [if_neg (not_lt.2 le), if_neg (not_lt.2 le')]

theorem clamp_le_clamp (bounds : low.le high = true) (le : x.le y = true) :
    (x.clamp low high).le (y.clamp low high) = true := by
  obtain ⟨l, h, low_at, high_at, order⟩ := le_iff_position.1 bounds
  obtain ⟨a, b, left, right, order'⟩ := le_iff_position.1 le
  have below (z : Binary64) (c : ℤ) (stands : z.position = some c) :
      (z.clamp low high).position = some (if c < l then l else if h < c then h else c) := by
    simp only [clamp, lt, stands, low_at, high_at, decide_eq_true_eq]
    split_ifs <;> assumption
  refine le_iff_position.2 ⟨_, _, below x a left, below y b right, ?_⟩
  split_ifs <;> omega

end Floodgate.Binary64
