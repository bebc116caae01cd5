import Floodgate.Proofs.Binary64.Magnitude

/-!
# How far rounding errors move a rank

A quotient that was rounded twice on the way differs from the exact one by twice the relative
error of a rounding, or by one relative error and half a unit. Rounded once more, it goes to a
rank at most two from the rank of the exact quotient.

## Main definitions

* `TwoRoundings` — a number is not further up than two roundings lead

## Main results

* `TwoRoundings.mul_div`, `TwoRoundings.div` — rounding both parts of a product or a quotient
* `Nearest.le_add_two` — two roundings move a rank by at most two
* `le_unitsAt_nearestRank_add` — rounding down loses at most half a step of the block
* `ofRank_div` — the quotient of two magnitudes
-/

namespace Floodgate.Binary64

variable {n d n' d' r r' : ℕ} {a b x y : ℚ}

theorem Nearest.two_mul_le (near : Nearest n d r) (positive : 0 < d) :
    2 * (n / d : ℚ) ≤ midpointAt r := by
  have positive' : (0 : ℚ) < d := by exact_mod_cast positive
  rw [← mul_div_assoc, div_le_iff₀ positive', mul_comm (midpointAt r : ℚ)]
  exact_mod_cast near.le_above

/-- A number below a midpoint is not rounded to a magnitude above it. -/
theorem Nearest.le_of_lt (near : Nearest n d r) (positive : 0 < d)
    (less : 2 * (n / d : ℚ) < midpointAt r') : r ≤ r' := by
  by_contra greater
  obtain ⟨s, rfl⟩ : ∃ s, r = s + 1 := ⟨r - 1, by omega⟩
  have positive' : (0 : ℚ) < d := by exact_mod_cast positive
  have below : (midpointAt s : ℚ) ≤ 2 * (n / d) := by
    rw [← mul_div_assoc, le_div_iff₀ positive', mul_comm]
    exact_mod_cast near.below_le s rfl
  have order : midpointAt r' ≤ midpointAt s := midpointAt_strictMono.monotone (by omega)
  have order' : (midpointAt r' : ℚ) ≤ midpointAt s := by exact_mod_cast order
  linarith

/-- From `a`, two roundings up lead to `b` at most: twice by the relative error, or once by it and
once by half a unit. -/
def TwoRoundings (a b : ℚ) : Prop :=
  b ≤ a * (1 + roundoff) ^ 2 ∨ b ≤ a * (1 + roundoff) + 1 / 2

/-- Both factors are rounded. -/
theorem TwoRoundings.mul_div {u : ℚ} (up : b ≤ a * (1 + roundoff)) (up' : y ≤ x * (1 + roundoff))
    (nonneg : 0 ≤ y) (nonneg' : 0 ≤ a) (pos : 0 < u) : TwoRoundings (a * x / u) (b * y / u) := by
  have factor : 0 ≤ a * (1 + roundoff) := mul_nonneg nonneg' (by linarith [roundoff_pos])
  left
  rw [div_mul_eq_mul_div]
  apply div_le_div_of_nonneg_right _ pos.le
  calc b * y ≤ a * (1 + roundoff) * (x * (1 + roundoff)) := mul_le_mul up up' nonneg factor
    _ = a * x * (1 + roundoff) ^ 2 := by ring

/-- Dividend and divisor are rounded. -/
theorem TwoRoundings.div (up : b ≤ a * (1 + roundoff)) (down : x ≤ y * (1 + roundoff))
    (pos : 0 < x) (pos' : 0 < y) (nonneg : 0 ≤ a) : TwoRoundings (a / x) (b / y) := by
  have factor : 0 ≤ a * (1 + roundoff) := mul_nonneg nonneg (by linarith [roundoff_pos])
  left
  rw [div_mul_eq_mul_div, div_le_div_iff₀ pos' pos]
  calc b * x ≤ a * (1 + roundoff) * (y * (1 + roundoff)) := mul_le_mul up down pos.le factor
    _ = a * (1 + roundoff) ^ 2 * y := by ring

/-- Ten half units are half a unit after a division by ten or more. -/
theorem TwoRoundings.div_of_le {m : ℚ}
    (up : b ≤ a * (1 + roundoff) ^ 2 ∨ b ≤ a * (1 + roundoff) + 5) (ten : 10 ≤ m) :
    TwoRoundings (a / m) (b / m) := by
  have pos : 0 < m := by linarith
  rcases up with twice | once
  · left
    rw [div_mul_eq_mul_div]
    exact div_le_div_of_nonneg_right twice pos.le
  · right
    rw [div_mul_eq_mul_div, div_add' _ _ _ pos.ne']
    refine div_le_div_of_nonneg_right (once.trans ?_) pos.le
    linarith

/-- The next two steps from a magnitude are at least as long as the step from it. -/
theorem midpointAt_add_le (r : ℕ) :
    midpointAt r + 4 * 2 ^ (r / 2 ^ 52 - 1) ≤ midpointAt (r + 2) := by
  have first : 2 ^ (r / 2 ^ 52 - 1) ≤ 2 ^ ((r + 1) / 2 ^ 52 - 1) :=
    Nat.pow_le_pow_right (by decide) (by omega)
  have second : 2 ^ (r / 2 ^ 52 - 1) ≤ 2 ^ ((r + 2) / 2 ^ 52 - 1) :=
    Nat.pow_le_pow_right (by decide) (by omega)
  have start := unitsAt_succ r
  have next : unitsAt (r + 2) = unitsAt (r + 1) + _ := unitsAt_succ (r + 1)
  have last := unitsAt_succ (r + 2)
  unfold midpointAt
  omega

/-- A midpoint is fewer than `2 ^ 54` steps from zero, and so two relative errors of it are less
than the four steps to the midpoint after the next one. -/
theorem TwoRoundings.lt_midpointAt (up : TwoRoundings a b) (le : 2 * a ≤ midpointAt r) :
    2 * b < midpointAt (r + 2) := by
  have steps : (midpointAt r : ℚ) ≤ (2 ^ 54 - 1) * 2 ^ (r / 2 ^ 52 - 1) := by
    have := midpointAt_le r
    have cast : (2 ^ 54 - 1 : ℚ) = ((2 ^ 54 - 1 : ℕ) : ℚ) := by norm_num
    rw [cast]
    exact_mod_cast this
  have further : (midpointAt r : ℚ) + 4 * 2 ^ (r / 2 ^ 52 - 1) ≤ midpointAt (r + 2) := by
    exact_mod_cast midpointAt_add_le r
  have step : (1 : ℚ) ≤ 2 ^ (r / 2 ^ 52 - 1) := one_le_pow₀ (by norm_num)
  -- With the step as a number of its own, what is left is linear.
  generalize (2 : ℚ) ^ (r / 2 ^ 52 - 1) = gap at steps further step
  rcases up with twice | once
  · unfold roundoff at twice
    norm_num at twice steps
    linarith
  · unfold roundoff at once
    norm_num at once steps
    linarith

/-- Two roundings move the nearest rank by at most two. -/
theorem Nearest.le_add_two (near : Nearest n d r) (near' : Nearest n' d' r') (positive : 0 < d)
    (positive' : 0 < d') (up : TwoRoundings (n / d) (n' / d')) : r' ≤ r + 2 :=
  near'.le_of_lt positive' (up.lt_midpointAt (near.two_mul_le positive))

/-- Below `2 ^ (53 + k)` units the steps are at most `2 ^ k` units long, and rounding down loses
half a step. -/
theorem le_unitsAt_nearestRank_add (positive : 0 < d) {k : ℕ} (bounded : n ≤ 2 ^ (53 + k) * d) :
    (n / d : ℚ) ≤ unitsAt (nearestRank n d) + 2 ^ k / 2 := by
  have above := (nearest_nearestRank n positive).two_mul_le positive
  generalize nearestRank n d = r at above ⊢
  rw [midpointAt, unitsAt_succ] at above
  push_cast at above
  by_cases short : r / 2 ^ 52 - 1 ≤ k
  · -- The quotient is at most half a step above the magnitude.
    have step : (2 : ℚ) ^ (r / 2 ^ 52 - 1) ≤ 2 ^ k := pow_le_pow_right₀ (by norm_num) short
    linarith
  · -- The magnitude is so large already that the quotient does not exceed it.
    have long : 2 ^ (53 + k) ≤ unitsAt r := by
      rcases gap_le r with none | gap
      · omega
      · refine le_trans ?_ gap
        rw [← pow_add]
        exact Nat.pow_le_pow_right (by decide) (by omega)
    have long' : (2 ^ (53 + k) : ℚ) ≤ unitsAt r := by exact_mod_cast long
    have positive' : (0 : ℚ) < d := by exact_mod_cast positive
    have bounded' : (n / d : ℚ) ≤ 2 ^ (53 + k) := by
      rw [div_le_iff₀ positive']
      exact_mod_cast bounded
    have : (0 : ℚ) < 2 ^ k := by positivity
    linarith

/-! ### Whole numbers and quotients -/

theorem unitsAt_wholeRank_le (n : ℕ) :
    (unitsAt (wholeRank n) : ℚ) ≤ n * unitsPerOne * (1 + roundoff) := by
  have := unitsAt_nearestRank_one_le (n * unitsPerOne)
  rwa [Nat.cast_mul] at this

theorem le_unitsAt_wholeRank (n : ℕ) :
    (n * unitsPerOne : ℚ) ≤ unitsAt (wholeRank n) * (1 + roundoff) := by
  have := le_unitsAt_nearestRank_one_mul (n * unitsPerOne)
  rwa [Nat.cast_mul] at this

/-- What a whole number below `2 ^ (j + 1)` loses is half a step of its block. -/
theorem le_unitsAt_wholeRank_add {j : ℕ} (large : 53 ≤ j) (below : n < 2 ^ (j + 1)) :
    (n * unitsPerOne : ℚ) ≤ unitsAt (wholeRank n) + 2 ^ j * unitsPerOne * roundoff := by
  obtain ⟨e, -, unit⟩ := exists_unitsPerOne
  obtain ⟨k, rfl⟩ := Nat.exists_eq_add_of_le large
  have bounded : n * unitsPerOne ≤ 2 ^ (53 + (k + 1 + e)) * 1 := by
    rw [unit, mul_one]
    have exponent : 53 + (k + 1 + e) = 53 + k + 1 + e := by omega
    rw [exponent, pow_add _ _ e]
    exact Nat.mul_le_mul_right _ below.le
  have half := le_unitsAt_nearestRank_add Nat.one_pos bounded
  have step : (2 : ℚ) ^ (k + 1 + e) / 2 = 2 ^ (53 + k) * unitsPerOne * roundoff := by
    rw [unit, roundoff]
    push_cast
    ring
  rw [step, Nat.cast_mul, Nat.cast_one, div_one] at half
  exact half

theorem unitsPerOne_le_unitsAt_wholeRank (pos : 0 < n) : unitsPerOne ≤ unitsAt (wholeRank n) := by
  have one : unitsAt (wholeRank 1) = unitsPerOne := by
    rw [unitsAt_wholeRank (by decide), Nat.one_mul]
  rw [← one, unitsAt_le_unitsAt]
  exact wholeRank_le_wholeRank pos

theorem wholeRank_lt_of_le (le : n ≤ 10 ^ 308) : wholeRank n < 2047 * 2 ^ 52 := by
  have last : wholeRank (10 ^ 308) < 2047 * 2 ^ 52 := by decide +kernel
  exact (wholeRank_le_wholeRank le).trans_lt last

/-- Dividing by at least one does not lead up. -/
theorem nearestRank_div_le {u : ℕ} (pos : 0 < u) (le : u ≤ d) :
    nearestRank (unitsAt r * u) d ≤ r :=
  nearestRank_le (pos.trans_le le) (Nat.mul_le_mul_left _ le)

theorem ofRank_div {a b : ℕ} (ha : a < 2047 * 2 ^ 52) (hb : b < 2047 * 2 ^ 52) (pos : b ≠ 0) :
    ofRank false a / ofRank false b =
      ofRank false (nearestRank (unitsAt a * unitsPerOne) (unitsAt b)) := by
  change div _ _ = _
  rw [ofRank_of_lt ha, ofRank_of_lt hb, div, if_neg pos, ofUnits, Bool.xor_false]

end Floodgate.Binary64
