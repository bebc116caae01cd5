import Mathlib.Tactic.Ring
import Mathlib.Tactic.Linarith
import Floodgate.Binary64.Shortest
import Floodgate.Proofs.Binary64.Magnitude

/-!
# The shortest digits of a magnitude

The search for the shortest digits always finds some. The decimal number that it finds is rounded
to the magnitude that is written, and its digits are few enough for 64 bits: a coarser grid has no
point that is rounded there, so that the grid found is not much finer than the magnitudes are.

## Main definitions

* `NearestDecimal` — the decimal number that is rounded to a magnitude

## Main results

* `nearest_of_roundsBack` — the test for a point of a grid is that it is rounded to the magnitude
* `mul_le_of_onGrid_eq_none` — a grid without such a point is coarser than the magnitudes
* `exists_shortest` — digits are found, on the coarsest grid that has some
* `nearestDecimal_shortest`, `shortest_pos`, `shortest_lt` — what is known of the digits found
-/

namespace Floodgate.Binary64

variable {r s d t n fuel : ℕ} {g : ℤ}

/-- Powers of ten are positive. With any exponent, none of them is evaluated to know it. -/
theorem ten_pow_pos (k : ℕ) : 0 < 10 ^ k := Nat.pow_pos (by decide)

/-- The number `d * 10 ^ g` is rounded to the magnitude at the rank `r`. -/
def NearestDecimal (d : ℕ) (g : ℤ) (r : ℕ) : Prop :=
  Nearest (d * (unitsPerOne * 10 ^ g.toNat)) (10 ^ (-g).toNat) r

/-- Whole units of a power of ten are counted in tenths of one as well. -/
theorem NearestDecimal.tenths (near : NearestDecimal d g r) (nonneg : 0 ≤ g) :
    NearestDecimal (d * 10 ^ (g.toNat + 1)) (-1) r := by
  have none : (-g).toNat = 0 := by omega
  have none' : (-1 : ℤ).toNat = 0 := by decide
  have one : (-(-1 : ℤ)).toNat = 1 := by decide
  apply near.of_eq (ten_pow_pos _) (ten_pow_pos _)
  rw [none, none', one]
  ring

/-- The distance between the midpoints on both sides of a magnitude. -/
theorem midpointAt_succ (s : ℕ) :
    midpointAt (s + 1) =
      midpointAt s + 2 ^ (s / 2 ^ 52 - 1) + 2 ^ ((s + 1) / 2 ^ 52 - 1) := by
  rw [midpointAt, midpointAt, unitsAt_succ (s + 1), unitsAt_succ s]
  ring

theorem midpointAt_pos (s : ℕ) : 0 < midpointAt s := by
  have : unitsAt s < unitsAt (s + 1) := unitsAt_lt_unitsAt_succ s
  unfold midpointAt
  omega

/-! ### Points of a decimal grid -/

/-- A point of a grid in half units, as a quotient. -/
theorem gridScale_eq (g : ℤ) :
    gridScale g = (10 ^ (-g).toNat, 2 * unitsPerOne * 10 ^ g.toNat) := by
  cases g with
  | ofNat g =>
    have none : (-(Int.ofNat g)).toNat = 0 := by simp
    rw [gridScale, none, pow_zero]
    rfl
  | negSucc g =>
    have none : (Int.negSucc g).toNat = 0 := rfl
    have some : (-(Int.negSucc g)).toNat = g + 1 := rfl
    rw [gridScale, none, some, pow_zero, mul_one]

/-- The next grid is ten times as coarse. -/
theorem gridScale_succ (g : ℤ) :
    (gridScale g).1 * (gridScale (g + 1)).2 = 10 * ((gridScale (g + 1)).1 * (gridScale g).2) := by
  have exponents : (-g).toNat + (g + 1).toNat = 1 + (-(g + 1)).toNat + g.toNat := by omega
  have powers : 10 ^ (-g).toNat * 10 ^ (g + 1).toNat =
      10 * 10 ^ (-(g + 1)).toNat * 10 ^ g.toNat := by
    rw [← pow_add, exponents, pow_add, pow_add, pow_one]
  simp only [gridScale_eq]
  calc 10 ^ (-g).toNat * (2 * unitsPerOne * 10 ^ (g + 1).toNat)
      = 2 * unitsPerOne * (10 ^ (-g).toNat * 10 ^ (g + 1).toNat) := by ring
    _ = 10 * (10 ^ (-(g + 1)).toNat * (2 * unitsPerOne * 10 ^ g.toNat)) := by rw [powers]; ring

theorem gridScale_fst_pos (g : ℤ) : 0 < (gridScale g).1 := by
  rw [gridScale_eq]
  exact ten_pow_pos _

theorem gridScale_snd_pos (g : ℤ) : 0 < (gridScale g).2 := by
  rw [gridScale_eq]
  exact Nat.mul_pos (Nat.mul_pos (by decide) unitsPerOne_pos) (ten_pow_pos _)

/-- The test with both sides of the magnitude of rank `s + 1`. -/
theorem roundsBack_succ_iff :
    roundsBack (s + 1) g d = true ↔
      if (s + 1) % 2 = 0 then
        midpointAt s * (gridScale g).1 ≤ d * (gridScale g).2 ∧
          d * (gridScale g).2 ≤ midpointAt (s + 1) * (gridScale g).1
      else
        midpointAt s * (gridScale g).1 < d * (gridScale g).2 ∧
          d * (gridScale g).2 < midpointAt (s + 1) * (gridScale g).1 := by
  unfold roundsBack midpointAt
  simp only [Nat.add_sub_cancel]
  split_ifs <;> simp only [Bool.and_eq_true, decide_eq_true_eq]

theorem le_of_roundsBack (back : roundsBack (s + 1) g d = true) :
    midpointAt s * (gridScale g).1 ≤ d * (gridScale g).2 ∧
      d * (gridScale g).2 ≤ midpointAt (s + 1) * (gridScale g).1 := by
  rw [roundsBack_succ_iff] at back
  split_ifs at back with even
  · exact back
  · exact ⟨back.1.le, back.2.le⟩

theorem roundsBack_of_lt (above : midpointAt s * (gridScale g).1 < d * (gridScale g).2)
    (below : d * (gridScale g).2 < midpointAt (s + 1) * (gridScale g).1) :
    roundsBack (s + 1) g d = true := by
  rw [roundsBack_succ_iff]
  split_ifs
  · exact ⟨above.le, below.le⟩
  · exact ⟨above, below⟩

theorem nearest_of_roundsBack (back : roundsBack (s + 1) g d = true) :
    NearestDecimal d g (s + 1) := by
  have twice : d * (2 * unitsPerOne * 10 ^ g.toNat) = 2 * (d * (unitsPerOne * 10 ^ g.toNat)) := by
    ring
  rw [roundsBack_succ_iff, gridScale_eq, twice, mul_comm (midpointAt s),
    mul_comm (midpointAt (s + 1))] at back
  unfold NearestDecimal
  split_ifs at back with even
  · refine ⟨back.2, fun _ => even, ?_, fun _ _ _ => even⟩
    intro s' same
    obtain rfl := Nat.succ.inj same
    exact back.1
  · refine ⟨back.2.le, fun tie => absurd tie back.2.ne, ?_, ?_⟩
    · intro s' same
      obtain rfl := Nat.succ.inj same
      exact back.1.le
    · intro s' same tie
      obtain rfl := Nat.succ.inj same
      exact absurd tie back.1.ne

/-- The last multiple on a grid that is at most the magnitude. -/
def below (r : ℕ) (g : ℤ) : ℕ := 2 * unitsAt r * (gridScale g).1 / (gridScale g).2

theorem onGrid_eq_match (r : ℕ) (g : ℤ) :
    onGrid r g =
      match roundsBack r g (below r g), roundsBack r g (below r g + 1) with
      | true, true =>
        let past := 2 * (2 * unitsAt r * (gridScale g).1 - below r g * (gridScale g).2)
        if past < (gridScale g).2 ∨ (past = (gridScale g).2 ∧ below r g % 2 = 0)
          then some (below r g) else some (below r g + 1)
      | true, false => some (below r g)
      | false, true => some (below r g + 1)
      | false, false => none := rfl

theorem roundsBack_of_onGrid (found : onGrid r g = some d) : roundsBack r g d = true := by
  rw [onGrid_eq_match] at found
  cases left : roundsBack r g (below r g) <;> cases right : roundsBack r g (below r g + 1)
  all_goals simp only [left, right] at found
  · cases found
  · exact Option.some.inj found ▸ right
  · exact Option.some.inj found ▸ left
  · -- Both neighbours are rounded back, and the nearer one is taken.
    split_ifs at found
    · exact Option.some.inj found ▸ left
    · exact Option.some.inj found ▸ right

theorem roundsBack_of_onGrid_eq_none (missing : onGrid r g = none) :
    ¬roundsBack r g (below r g) = true ∧ ¬roundsBack r g (below r g + 1) = true := by
  rw [onGrid_eq_match] at missing
  cases left : roundsBack r g (below r g) <;> cases right : roundsBack r g (below r g + 1)
  all_goals simp only [left, right] at missing
  · decide
  · cases missing
  · cases missing
  · split_ifs at missing

/-- A grid without a point that is rounded to a magnitude is coarser than the magnitudes. -/
theorem mul_le_of_onGrid_eq_none (missing : onGrid (s + 1) g = none) :
    (2 ^ (s / 2 ^ 52 - 1) + 2 ^ ((s + 1) / 2 ^ 52 - 1)) * (gridScale g).1 ≤ (gridScale g).2 := by
  obtain ⟨left, right⟩ := roundsBack_of_onGrid_eq_none missing
  have num_pos := gridScale_fst_pos g
  have floor : below (s + 1) g * (gridScale g).2 ≤ 2 * unitsAt (s + 1) * (gridScale g).1 :=
    Nat.div_mul_le_self _ _
  have ceiling : 2 * unitsAt (s + 1) * (gridScale g).1 <
      below (s + 1) g * (gridScale g).2 + (gridScale g).2 :=
    Nat.lt_div_mul_add (gridScale_snd_pos g)
  generalize below (s + 1) g = point at left right floor ceiling
  -- The magnitude lies between its midpoints.
  have low : midpointAt s * (gridScale g).1 < 2 * unitsAt (s + 1) * (gridScale g).1 := by
    have : unitsAt s < unitsAt (s + 1) := unitsAt_lt_unitsAt_succ s
    exact Nat.mul_lt_mul_of_pos_right (by unfold midpointAt; omega) num_pos
  have high : 2 * unitsAt (s + 1) * (gridScale g).1 < midpointAt (s + 1) * (gridScale g).1 := by
    have : unitsAt (s + 1) < unitsAt (s + 1 + 1) := unitsAt_lt_unitsAt_succ (s + 1)
    exact Nat.mul_lt_mul_of_pos_right (by unfold midpointAt; omega) num_pos
  -- Neither neighbour on the grid is rounded there, so both midpoints lie between the two.
  have outside : point * (gridScale g).2 ≤ midpointAt s * (gridScale g).1 := by
    by_contra inside
    exact left (roundsBack_of_lt (not_le.1 inside) (floor.trans_lt high))
  have outside' : midpointAt (s + 1) * (gridScale g).1 ≤
      point * (gridScale g).2 + (gridScale g).2 := by
    rw [← Nat.succ_mul]
    by_contra inside
    refine right (roundsBack_of_lt ?_ (not_le.1 inside))
    rw [Nat.succ_mul]
    exact low.trans ceiling
  rw [midpointAt_succ, add_assoc, add_mul] at outside'
  omega

/-! ### The search -/

theorem shortestFrom_of_some (here : onGrid r (309 - (t : ℤ)) = some d) :
    shortestFrom r t (fuel + 1) = (d, 309 - (t : ℤ)) := by
  simp only [shortestFrom, here]

theorem shortestFrom_of_none (here : onGrid r (309 - (t : ℤ)) = none) :
    shortestFrom r t (fuel + 1) = shortestFrom r (t + 1) fuel := by
  simp only [shortestFrom, here]

/-- The search ends at the first grid that has a point. -/
theorem shortestFrom_spec (hit : ∃ u < fuel, onGrid r (309 - ((t + u : ℕ) : ℤ)) ≠ none) :
    ∃ u < fuel, ∃ d, shortestFrom r t fuel = (d, 309 - ((t + u : ℕ) : ℤ)) ∧
      onGrid r (309 - ((t + u : ℕ) : ℤ)) = some d ∧
      ∀ v < u, onGrid r (309 - ((t + v : ℕ) : ℤ)) = none := by
  induction fuel generalizing t with
  | zero =>
    -- No grid is left, but the hit is on one of them.
    obtain ⟨u, less, -⟩ := hit
    omega
  | succ fuel ih =>
    cases here : onGrid r (309 - (t : ℤ)) with
    | some d =>
      exact ⟨0, Nat.succ_pos _, d, shortestFrom_of_some here, here,
        fun v less => absurd less (Nat.not_lt_zero v)⟩
    | none =>
      -- The hit is on a later grid, one place closer when the search starts at the next one.
      obtain ⟨u, less, there⟩ := hit
      have past : u ≠ 0 := by
        intro first
        exact there (first ▸ here)
      obtain ⟨u, rfl⟩ := Nat.exists_eq_add_one_of_ne_zero past
      have shift (v : ℕ) : t + (v + 1) = t + 1 + v := by omega
      rw [shift u] at there
      obtain ⟨v, less', d, result, found, earlier⟩ := ih ⟨u, by omega, there⟩
      refine ⟨v + 1, by omega, d, ?_, ?_, ?_⟩
      · rw [shortestFrom_of_none here, shift v]
        exact result
      · rw [shift v]
        exact found
      · intro w less''
        cases w with
        | zero => exact here
        | succ w =>
          rw [shift w]
          exact earlier w (by omega)

/-- The finest grid is finer than the least magnitude. -/
theorem onGrid_finest (s : ℕ) : onGrid (s + 1) (-324) ≠ none := by
  intro missing
  have coarse := mul_le_of_onGrid_eq_none missing
  have fine : (gridScale (-324)).2 < 2 * (gridScale (-324)).1 := by decide +kernel
  have steps : 2 ≤ 2 ^ (s / 2 ^ 52 - 1) + 2 ^ ((s + 1) / 2 ^ 52 - 1) :=
    Nat.add_le_add Nat.one_le_two_pow Nat.one_le_two_pow
  have scaled := Nat.mul_le_mul_right (gridScale (-324)).1 steps
  exact Nat.lt_irrefl _ (fine.trans_le (scaled.trans coarse))

/-- The coarsest grid has no point between zero and the first magnitude past the finite ones. -/
theorem onGrid_coarsest (finite : s + 1 < 2047 * 2 ^ 52) : onGrid (s + 1) 309 = none := by
  cases found : onGrid (s + 1) 309 with
  | none => rfl
  | some d =>
    obtain ⟨low, high⟩ := le_of_roundsBack (roundsBack_of_onGrid found)
    have positive : 0 < midpointAt s * (gridScale 309).1 :=
      Nat.mul_pos (midpointAt_pos s) (gridScale_fst_pos _)
    have last : midpointAt (2047 * 2 ^ 52 - 1) * (gridScale 309).1 < (gridScale 309).2 := by
      decide +kernel
    have middle : midpointAt (s + 1) * (gridScale 309).1 ≤
        midpointAt (2047 * 2 ^ 52 - 1) * (gridScale 309).1 :=
      Nat.mul_le_mul_right _ (midpointAt_strictMono.monotone (by omega))
    exfalso
    -- Zero is below the midpoints of every magnitude, and the next point is above all of them.
    cases d with
    | zero => exact Nat.lt_irrefl 0 (positive.trans_le (low.trans_eq (Nat.zero_mul _)))
    | succ d =>
      have step : (gridScale 309).2 ≤ (d + 1) * (gridScale 309).2 :=
        Nat.le_mul_of_pos_left _ (Nat.succ_pos d)
      exact Nat.lt_irrefl _ (last.trans_le (step.trans (high.trans middle)))

/-- The digits found are on the first grid that has a point. -/
theorem exists_shortest (pos : 0 < r) (finite : r < 2047 * 2 ^ 52) :
    ∃ d g, shortest r = (d, g) ∧ -324 ≤ g ∧ g ≤ 308 ∧ onGrid r g = some d ∧
      onGrid r (g + 1) = none := by
  obtain ⟨s, rfl⟩ := Nat.exists_eq_add_one_of_ne_zero pos.ne'
  obtain ⟨u, less, d, result, found, earlier⟩ :=
    @shortestFrom_spec (s + 1) 0 634 ⟨633, by decide, onGrid_finest s⟩
  rw [zero_add] at result found
  -- The search starts on a grid without a point, so there is one before that of the hit.
  have past : u ≠ 0 := by
    rintro rfl
    rw [Nat.cast_zero, sub_zero, onGrid_coarsest finite] at found
    cases found
  have before := earlier (u - 1) (by omega)
  have next : (309 : ℤ) - ((0 + (u - 1) : ℕ) : ℤ) = 309 - (u : ℤ) + 1 := by omega
  rw [next] at before
  exact ⟨d, _, result, by omega, by omega, found, before⟩

section Found

variable (pos : 0 < r) (finite : r < 2047 * 2 ^ 52)

include pos finite

theorem nearestDecimal_shortest : NearestDecimal (shortest r).1 (shortest r).2 r := by
  obtain ⟨d, g, result, -, -, found, -⟩ := exists_shortest pos finite
  obtain ⟨s, rfl⟩ := Nat.exists_eq_add_one_of_ne_zero pos.ne'
  rw [result]
  exact nearest_of_roundsBack (roundsBack_of_onGrid found)

theorem shortest_pos : 0 < (shortest r).1 := by
  obtain ⟨d, g, result, -, -, found, -⟩ := exists_shortest pos finite
  obtain ⟨s, rfl⟩ := Nat.exists_eq_add_one_of_ne_zero pos.ne'
  have low := (le_of_roundsBack (roundsBack_of_onGrid found)).1
  have positive : 0 < midpointAt s * (gridScale g).1 :=
    Nat.mul_pos (midpointAt_pos s) (gridScale_fst_pos g)
  rw [result]
  exact Nat.pos_of_mul_pos_right (positive.trans_le low)

/-- The digits count a magnitude in tenths of its distance to the next one at the finest. -/
theorem shortest_lt : (shortest r).1 < 10 * 2 ^ 54 := by
  obtain ⟨d, g, result, -, -, found, missing⟩ := exists_shortest pos finite
  obtain ⟨s, rfl⟩ := Nat.exists_eq_add_one_of_ne_zero pos.ne'
  have high := (le_of_roundsBack (roundsBack_of_onGrid found)).2
  have coarse := mul_le_of_onGrid_eq_none missing
  have tenfold := gridScale_succ g
  have magnitude := midpointAt_le (s + 1)
  have num_pos := gridScale_fst_pos (g + 1)
  have den_pos := gridScale_snd_pos g
  rw [result]
  dsimp only
  generalize gridScale g = scale at high tenfold den_pos
  generalize gridScale (g + 1) = scale' at coarse tenfold num_pos
  generalize midpointAt (s + 1) = middle at high magnitude
  have gap_pos : 0 < 2 ^ ((s + 1) / 2 ^ 52 - 1) := Nat.two_pow_pos _
  generalize 2 ^ ((s + 1) / 2 ^ 52 - 1) = gap at coarse magnitude gap_pos
  -- Both sides are compared with the coarser grid, which is at least a step of the magnitudes.
  have counted : d * gap * (scale'.1 * scale.2) ≤ 10 * middle * (scale'.1 * scale.2) := by
    calc d * gap * (scale'.1 * scale.2) = d * scale.2 * (gap * scale'.1) := by ring
      _ ≤ middle * scale.1 * scale'.2 := by
        refine Nat.mul_le_mul high (le_trans ?_ coarse)
        exact Nat.mul_le_mul_right _ (Nat.le_add_left _ _)
      _ = middle * (scale.1 * scale'.2) := by ring
      _ = 10 * middle * (scale'.1 * scale.2) := by rw [tenfold]; ring
  have few : d * gap ≤ 10 * (2 ^ 54 - 1) * gap := by
    refine (Nat.le_of_mul_le_mul_right counted (Nat.mul_pos num_pos den_pos)).trans ?_
    rw [mul_assoc]
    exact Nat.mul_le_mul_left 10 magnitude
  have := Nat.le_of_mul_le_mul_right few gap_pos
  omega

theorem le_shortest_snd : -324 ≤ (shortest r).2 := by
  obtain ⟨d, g, result, least, -⟩ := exists_shortest pos finite
  rw [result]
  exact least

theorem shortest_snd_le : (shortest r).2 ≤ 308 := by
  obtain ⟨d, g, result, -, greatest, -⟩ := exists_shortest pos finite
  rw [result]
  exact greatest

end Found

end Floodgate.Binary64
