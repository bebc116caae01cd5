import Floodgate.Json.Number
import Floodgate.Proofs.Binary64.Shortest
import Floodgate.Proofs.Binary64.Steps

/-!
# Scaling a significand

A significand of 64 bits and a power of ten are rounded by themselves before the one is scaled by
the other. The product goes to a rank at most two from the rank that is nearest to the number that
was written, and to that rank itself when both parts are kept by rounding.

## Main definitions

* `Numeral.inUnits` — a significand times a power of ten, in units
* `Numeral.ScalesNear` — scaling rounds a quotient that is two roundings from that number

## Main results

* `Numeral.scalesNear` — significands of 64 bits are scaled so by all powers in reach
* `Numeral.ScalesNear.exists_rank` — the rank that comes out is at most two from the nearest one
* `Numeral.scale_exact` — short significands and small powers give the nearest rank
-/

namespace Floodgate.Json.Numeral

open Binary64

variable {s k r n : ℕ} {e : ℤ}

/-! ### Scaling on ranks -/

theorem powerOfTen_eq_ofRank (k : ℕ) : powerOfTen k = ofRank false (wholeRank (10 ^ k)) := rfl

theorem wholeRank_powerOfTen_lt (le : k ≤ 308) : wholeRank (10 ^ k) < 2047 * 2 ^ 52 := by
  have powers := Nat.pow_le_pow_right (n := 10) (by decide) le
  exact wholeRank_lt_of_le powers

theorem wholeRank_significand_lt (small : s < 2 ^ 64) : wholeRank s < 2047 * 2 ^ 52 := by
  have reach : 2 ^ 64 ≤ 10 ^ 308 := by decide +kernel
  exact wholeRank_lt_of_le (small.le.trans reach)

theorem wholeRank_ne_zero (pos : 0 < n) : wholeRank n ≠ 0 := by
  intro zero
  have units := unitsPerOne_le_unitsAt_wholeRank pos
  rw [zero, unitsAt_zero] at units
  exact absurd unitsPerOne_pos (Nat.not_lt.2 units)

theorem unitsAt_powerOfTen_pos (k : ℕ) : 0 < unitsAt (wholeRank (10 ^ k)) :=
  unitsPerOne_pos.trans_le (unitsPerOne_le_unitsAt_wholeRank (ten_pow_pos k))

/-- The quotient that is rounded when a magnitude is scaled by a power of ten that is finite. -/
def scaled (r : ℕ) (e : ℤ) : ℕ × ℕ :=
  if 0 ≤ e then (unitsAt r * unitsAt (wholeRank (10 ^ e.natAbs)), unitsPerOne)
  else (unitsAt r * unitsPerOne, unitsAt (wholeRank (10 ^ e.natAbs)))

theorem scaled_snd_pos (r : ℕ) (e : ℤ) : 0 < (scaled r e).2 := by
  rw [scaled]
  split
  · dsimp only
    exact unitsPerOne_pos
  · exact unitsAt_powerOfTen_pos _

theorem scale_ofRank (finite : r < 2047 * 2 ^ 52) (near : e.natAbs ≤ 308)
    (finite' : nearestRank (scaled r e).1 (scaled r e).2 < 2047 * 2 ^ 52) :
    scale (ofRank false r) e =
      some (ofRank false (nearestRank (scaled r e).1 (scaled r e).2)) := by
  have power := wholeRank_powerOfTen_lt near
  rw [scale, if_pos near, powerOfTen_eq_ofRank]
  unfold scaled at finite' ⊢
  split_ifs at finite' ⊢ with up <;> dsimp only at finite' ⊢
  · -- A product could be infinite, and then there would be no number at all.
    rw [ofRank_mul finite power]
    exact if_pos (isFinite_ofRank finite')
  · rw [ofRank_div finite power (wholeRank_ne_zero (ten_pow_pos _))]

/-! ### The parts together -/

/-- The number `s * 10 ^ e` in units. -/
def inUnits (s : ℕ) (e : ℤ) : ℚ := s * (unitsPerOne * 10 ^ e.toNat) / 10 ^ (-e).toNat

/-- Scaling rounds a quotient that is two roundings away from the number. -/
def ScalesNear (s : ℕ) (e : ℤ) : Prop :=
  ∃ n d : ℕ, 0 < d ∧ TwoRoundings (inUnits s e) (n / d) ∧ TwoRoundings (n / d) (inUnits s e) ∧
    (nearestRank n d < 2047 * 2 ^ 52 →
      scale (.ofNat s) e = some (ofRank false (nearestRank n d)))

/-- The rank that comes out is at most two from the rank nearest to the number. -/
theorem ScalesNear.exists_rank (scales : ScalesNear s e) (near : NearestDecimal s e r)
    (far : r + 2 < 2047 * 2 ^ 52) :
    ∃ r', scale (.ofNat s) e = some (ofRank false r') ∧ r' ≤ r + 2 ∧ r ≤ r' + 2 := by
  obtain ⟨n, d, pos, up, down, scale⟩ := scales
  have near' := nearest_nearestRank n pos
  have pos' := ten_pow_pos (-e).toNat
  have same : inUnits s e = ((s * (unitsPerOne * 10 ^ e.toNat) : ℕ) : ℚ) /
      ((10 ^ (-e).toNat : ℕ) : ℚ) := by
    rw [inUnits]
    push_cast
    rfl
  rw [same] at up down
  have above := near.le_add_two near' pos' pos up
  -- That the rank is at most two further up also keeps the number finite.
  exact ⟨_, scale (above.trans_lt far), above, near'.le_add_two near pos pos' down⟩

theorem unitsPerOne_cast_pos : (0 : ℚ) < unitsPerOne := by exact_mod_cast unitsPerOne_pos

theorem cast_powerOfTen (k : ℕ) : ((10 ^ k : ℕ) : ℚ) = 10 ^ k := by push_cast; rfl

/-- The number `a` scaled by `x`, both counted in units of which `u` make one. -/
def scaledBy (u : ℚ) (e : ℤ) (a x : ℚ) : ℚ := if 0 ≤ e then a * x / u else a * u / x

theorem inUnits_eq_scaledBy (s : ℕ) (e : ℤ) :
    inUnits s e = scaledBy unitsPerOne e (s * unitsPerOne) (10 ^ e.natAbs * unitsPerOne) := by
  have unit := unitsPerOne_cast_pos
  unfold inUnits scaledBy
  split_ifs with up
  · have none : (-e).toNat = 0 := by omega
    have some : e.toNat = e.natAbs := by omega
    rw [none, some, pow_zero]
    field_simp
  · have none : e.toNat = 0 := by omega
    have some : (-e).toNat = e.natAbs := by omega
    rw [none, some, pow_zero]
    field_simp

theorem cast_scaled (r : ℕ) (e : ℤ) :
    ((scaled r e).1 : ℚ) / (scaled r e).2 =
      scaledBy unitsPerOne e (unitsAt r) (unitsAt (wholeRank (10 ^ e.natAbs))) := by
  unfold scaled scaledBy
  split_ifs with up <;> rw [Nat.cast_mul]

/-- Both parts are rounded, whichever way the number is scaled. -/
theorem twoRoundings_scaledBy {a b x y u : ℚ} (up : b ≤ a * (1 + roundoff))
    (power_up : y ≤ x * (1 + roundoff)) (power_down : x ≤ y * (1 + roundoff)) (nonneg : 0 ≤ a)
    (pos : 0 < x) (pos' : 0 < y) (unit : 0 < u) :
    TwoRoundings (scaledBy u e a x) (scaledBy u e b y) := by
  unfold scaledBy
  split_ifs
  · exact .mul_div up power_up pos'.le nonneg unit
  · refine .div ?_ power_down pos pos' (mul_nonneg nonneg unit.le)
    rw [mul_right_comm _ _ (1 + roundoff)]
    exact mul_le_mul_of_nonneg_right up unit.le

theorem scaled_of_nonneg (r : ℕ) (up : 0 ≤ e) :
    scaled r e = (unitsAt r * unitsAt (wholeRank (10 ^ e.natAbs)), unitsPerOne) := if_pos up

theorem scaled_of_neg (r : ℕ) (down : e < 0) :
    scaled r e = (unitsAt r * unitsPerOne, unitsAt (wholeRank (10 ^ e.natAbs))) :=
  if_neg (not_le.2 down)

/-- Powers that are finite are applied at once. -/
theorem scalesNear_of_near (small : s < 2 ^ 64) (near : e.natAbs ≤ 308) : ScalesNear s e := by
  have unit := unitsPerOne_cast_pos
  have significand : (0 : ℚ) ≤ s * unitsPerOne := mul_nonneg (Nat.cast_nonneg _) unit.le
  have rounded : (0 : ℚ) ≤ unitsAt (wholeRank s) := Nat.cast_nonneg _
  have significand_up := unitsAt_wholeRank_le s
  have significand_down := le_unitsAt_wholeRank s
  have power : (0 : ℚ) < 10 ^ e.natAbs * unitsPerOne := mul_pos (by positivity) unit
  have power_rounded : (0 : ℚ) < unitsAt (wholeRank (10 ^ e.natAbs)) := by
    exact_mod_cast unitsAt_powerOfTen_pos e.natAbs
  have power_up := unitsAt_wholeRank_le (10 ^ e.natAbs)
  have power_down := le_unitsAt_wholeRank (10 ^ e.natAbs)
  rw [cast_powerOfTen] at power_up power_down
  refine ⟨(scaled (wholeRank s) e).1, (scaled (wholeRank s) e).2, scaled_snd_pos _ _, ?_, ?_,
    scale_ofRank (wholeRank_significand_lt small) near⟩
  · rw [inUnits_eq_scaledBy, cast_scaled]
    exact twoRoundings_scaledBy significand_up power_up power_down significand power power_rounded
      unit
  · rw [inUnits_eq_scaledBy, cast_scaled]
    exact twoRoundings_scaledBy significand_down power_down power_up rounded power_rounded power
      unit

/-! ### Powers in two steps -/

/-- Small powers are kept by rounding. -/
theorem unitsAt_powerOfTen (small : k < 23) :
    unitsAt (wholeRank (10 ^ k)) = 10 ^ k * unitsPerOne := by
  have all : ∀ k < 23, unitsAt (wholeRank (10 ^ k)) = 10 ^ k * unitsPerOne := by decide +kernel
  exact all k small

section FirstStep

/-! Of the first step, `z` is the exact result, `f` the one with the significand rounded, `w` the
one with the power rounded too, and `y` is what `w` is rounded to. -/

variable {z f w y : ℚ}

private theorem twoRoundings_first (rounded : f ≤ z * (1 + roundoff)) (shrunk : w ≤ f)
    (up : y ≤ w + 1 / 2 ∨ y ≤ w * (1 + roundoff)) : TwoRoundings z y := by
  rcases up with half | relative
  · right
    linarith
  · left
    have factor : 0 ≤ 1 + roundoff := by linarith [roundoff_pos]
    calc y ≤ w * (1 + roundoff) := relative
      _ ≤ z * (1 + roundoff) * (1 + roundoff) :=
        mul_le_mul_of_nonneg_right (shrunk.trans rounded) factor
      _ = z * (1 + roundoff) ^ 2 := by ring

/-- A short significand is kept. -/
private theorem le_first_of_short (kept : z = f) (power : f ≤ w * (1 + 11 / 10 ^ 18))
    (relative : w ≤ y + 1 / 2 ∨ w ≤ y * (1 + roundoff)) (nonneg : 0 ≤ y) :
    z ≤ y * (1 + roundoff) ^ 2 ∨ z ≤ y * (1 + roundoff) + 5 := by
  rw [kept]
  unfold roundoff at *
  norm_num at *
  rcases relative with half | relative
  · -- The error of the power is far below the five half units that are left for it.
    right
    linarith
  · left
    linarith

/-- Of a long significand, `x` is the result for its leading power of two `b`. The errors of the
significand and of the quotient cannot both be large, since `x` is short of `2 ^ 51 * b`. -/
private theorem le_first_of_long {x b : ℚ} (significand : z ≤ f + x * roundoff)
    (rounded : f ≤ z * (1 + roundoff)) (leading : x ≤ z) (shrunk : w ≤ f)
    (power : f ≤ w * (1 + 11 / 10 ^ 18)) (lower : 1797 * 2 ^ 50 * b ≤ 1000 * x)
    (upper : 1000 * x ≤ 1798 * 2 ^ 50 * b) (large : 2 ^ 53 ≤ b)
    (relative : w ≤ y + 1 / 2 ∨ w ≤ y * (1 + roundoff))
    (half : w ≤ 2 ^ 51 * b → w ≤ y + b / 8) : z ≤ y * (1 + roundoff) ^ 2 := by
  unfold roundoff at *
  norm_num at *
  by_cases clear : 10 * x ≤ 9 * z
  · -- The significand is clearly above its leading power, and so it lost less than `roundoff`.
    rcases relative with small | relative
    · linarith
    · linarith
  · -- The quotient is close to `x`, below `2 ^ 51 * b`, where the steps are at most `b / 4`.
    have small := half (by linarith)
    linarith

end FirstStep

/-- The greatest finite power of ten and what it is rounded to, kept from being evaluated. -/
theorem exists_greatest_power :
    ∃ t p, t = 10 ^ 308 ∧ p = unitsAt (wholeRank (10 ^ 308)) ∧ t * unitsPerOne ≤ p ∧
      p * 10 ^ 18 ≤ t * unitsPerOne * (10 ^ 18 + 11) ∧ 1797 * 2 ^ 50 * t ≤ 1000 * unitsPerOne ∧
      1000 * unitsPerOne ≤ 1798 * 2 ^ 50 * t :=
  ⟨_, _, rfl, rfl, by decide +kernel, by decide +kernel, by decide +kernel, by decide +kernel⟩

/-- What is left of a significand after the first step. -/
def firstStep (s : ℕ) : ℕ :=
  nearestRank (unitsAt (wholeRank s) * unitsPerOne) (unitsAt (wholeRank (10 ^ 308)))

theorem firstStep_lt (small : s < 2 ^ 64) : firstStep s < 2047 * 2 ^ 52 := by
  have divisor := unitsPerOne_le_unitsAt_wholeRank (ten_pow_pos 308)
  exact (nearestRank_div_le unitsPerOne_pos divisor).trans_lt (wholeRank_significand_lt small)

/-- Powers below `10 ^ -308` are applied in two steps. -/
theorem scale_deep (pos : 0 < s) (small : s < 2 ^ 64) (deep : e < -308) :
    scale (.ofNat s) e = scale (ofRank false (firstStep s)) (e + 308) := by
  have finite := wholeRank_significand_lt small
  have nonzero : ofRank false (wholeRank s) ≠ zero := by
    rw [ofRank_of_lt finite, zero]
    simp [wholeRank_ne_zero pos]
  have far : ¬e.natAbs ≤ 308 := by omega
  have down : ¬0 ≤ e := by omega
  have power := wholeRank_ne_zero (ten_pow_pos 308)
  rw [ofNat_eq_ofRank, scale, if_neg far, if_neg nonzero, if_neg down, powerOfTen_eq_ofRank,
    ofRank_div finite (wholeRank_powerOfTen_lt (Nat.le_refl 308)) power]
  rfl

/-- A divisor that is a little too great makes a quotient a little too small. -/
private theorem div_near {f u t p : ℚ} (nonneg : 0 ≤ f) (unit : 0 < u) (pos : 0 < t)
    (low : t * u ≤ p) (high : p * 10 ^ 18 ≤ t * u * (10 ^ 18 + 11)) :
    f * u / p ≤ f / t ∧ f / t ≤ f * u / p * (1 + 11 / 10 ^ 18) := by
  have pos' : 0 < p := (mul_pos pos unit).trans_le low
  constructor
  · rw [div_le_div_iff₀ pos' pos]
    calc f * u * t = f * (t * u) := by ring
      _ ≤ f * p := mul_le_mul_of_nonneg_left low nonneg
  · rw [div_mul_eq_mul_div, div_le_div_iff₀ pos pos']
    have scaled := mul_le_mul_of_nonneg_left high nonneg
    calc f * p = f * (p * 10 ^ 18) / 10 ^ 18 := by ring
      _ ≤ f * (t * u * (10 ^ 18 + 11)) / 10 ^ 18 := div_le_div_of_nonneg_right scaled (by norm_num)
      _ = f * u * (1 + 11 / 10 ^ 18) * t := by ring

/-- A number of 54 bits or more, in terms of a quarter of its leading power of two. -/
theorem exists_leading_power (long : 2 ^ 53 ≤ s) :
    ∃ k, 51 ≤ k ∧ 2 ^ (k + 2) ≤ s ∧ s < 2 ^ (k + 2 + 1) := by
  have nonzero : s ≠ 0 := by
    intro zero
    rw [zero] at long
    exact absurd long (by decide)
  have bits : 53 ≤ s.log2 := (Nat.le_log2 nonzero).2 long
  have exponent : s.log2 - 2 + 2 = s.log2 := by omega
  refine ⟨s.log2 - 2, by omega, ?_, ?_⟩
  · rw [exponent]
    exact Nat.log2_self_le nonzero
  · rw [exponent]
    exact Nat.lt_log2_self

/-- The first step is two roundings, though the significand, the power and the quotient are
rounded: the power is nearly exact. -/
theorem firstStep_near (s : ℕ) :
    TwoRoundings (s * unitsPerOne / 10 ^ 308) (unitsAt (firstStep s)) ∧
      ((s * unitsPerOne / 10 ^ 308 : ℚ) ≤ unitsAt (firstStep s) * (1 + roundoff) ^ 2 ∨
        (s * unitsPerOne / 10 ^ 308 : ℚ) ≤ unitsAt (firstStep s) * (1 + roundoff) + 5) := by
  obtain ⟨t, p, ht, hp, power_low, power_high, unit_low, unit_high⟩ := exists_greatest_power
  have t_pos : 0 < t := by
    rw [ht]
    exact ten_pow_pos 308
  have p_pos : 0 < p := by
    rw [hp]
    exact unitsAt_powerOfTen_pos 308
  have cast : (10 ^ 308 : ℚ) = t := by
    rw [ht]
    exact (cast_powerOfTen 308).symm
  have unit := unitsPerOne_cast_pos
  have rounded_up := unitsAt_wholeRank_le s
  have rounded_down := le_unitsAt_wholeRank s
  have kept := @unitsAt_wholeRank s
  have lost := @le_unitsAt_wholeRank_add s
  rw [firstStep, ← hp, cast]
  -- From here on no number is to be evaluated.
  generalize unitsAt (wholeRank s) = f at *
  generalize unitsPerOne = u at *
  have t_pos' : (0 : ℚ) < t := by exact_mod_cast t_pos
  have up := unitsAt_nearestRank_le_or (f * u) p_pos
  have down := le_unitsAt_nearestRank_or (f * u) p_pos
  have half {k : ℕ} := @le_unitsAt_nearestRank_add (f * u) p p_pos k
  have nonneg : (0 : ℚ) ≤ unitsAt (nearestRank (f * u) p) := Nat.cast_nonneg _
  generalize nearestRank (f * u) p = r at *
  have power_low' : (t * u : ℚ) ≤ p := by exact_mod_cast power_low
  have power_high' : (p * 10 ^ 18 : ℚ) ≤ t * u * (10 ^ 18 + 11) := by exact_mod_cast power_high
  obtain ⟨shrunk, power⟩ := div_near (Nat.cast_nonneg f) unit t_pos' power_low' power_high'
  rw [Nat.cast_mul] at up down
  have rounded : (f / t : ℚ) ≤ s * u / t * (1 + roundoff) := by
    rw [div_mul_eq_mul_div]
    exact div_le_div_of_nonneg_right rounded_up t_pos'.le
  refine ⟨twoRoundings_first rounded shrunk up, ?_⟩
  -- Only a significand of more than 53 bits is changed by rounding.
  by_cases short : s < 2 ^ 53
  · have same : (s * u / t : ℚ) = f / t := by
      rw [kept short, Nat.cast_mul]
    exact le_first_of_short same power down nonneg
  · left
    obtain ⟨k, large, low, high⟩ := exists_leading_power (not_lt.1 short)
    have low' : (2 ^ (k + 2) : ℚ) ≤ s := by exact_mod_cast low
    have unit_low' : (1797 * 2 ^ 50 * t : ℚ) ≤ 1000 * u := by exact_mod_cast unit_low
    have unit_high' : (1000 * u : ℚ) ≤ 1798 * 2 ^ 50 * t := by exact_mod_cast unit_high
    have large' : (2 ^ 53 : ℚ) ≤ 2 ^ (k + 2) := pow_le_pow_right₀ (by norm_num) (by omega)
    apply @le_first_of_long _ (f / t) (f * u / p) _ (2 ^ (k + 2) * u / t) (2 ^ (k + 2)) ?_ rounded
      ?_ shrunk power ?_ ?_ large' down ?_
    · have lost := lost (by omega) high
      rw [div_mul_eq_mul_div, ← add_div]
      exact div_le_div_of_nonneg_right lost t_pos'.le
    · exact div_le_div_of_nonneg_right (mul_le_mul_of_nonneg_right low' unit.le) t_pos'.le
    · rw [mul_div_assoc, mul_left_comm, mul_comm _ ((2 : ℚ) ^ (k + 2))]
      apply mul_le_mul_of_nonneg_left _ (by positivity)
      rwa [mul_div_assoc', le_div_iff₀ t_pos']
    · rw [mul_div_assoc, mul_left_comm, mul_comm _ ((2 : ℚ) ^ (k + 2))]
      apply mul_le_mul_of_nonneg_left _ (by positivity)
      rwa [mul_div_assoc', div_le_iff₀ t_pos']
    · intro bounded
      have p_pos' : (0 : ℚ) < p := by exact_mod_cast p_pos
      have block : (2 ^ 51 * 2 ^ (k + 2) : ℚ) = 2 ^ (53 + k) := by ring
      have step : (2 ^ k / 2 : ℚ) = 2 ^ (k + 2) / 8 := by ring
      rw [block, div_le_iff₀ p_pos'] at bounded
      have half := @half k (by exact_mod_cast bounded)
      rwa [Nat.cast_mul, step] at half

/-- Powers below `10 ^ -308` are applied in two steps, the second of them by a power that is
kept. -/
theorem scalesNear_of_deep (pos : 0 < s) (small : s < 2 ^ 64) (least : -324 ≤ e) (deep : e < -308) :
    ScalesNear s e := by
  -- The first step takes 308 of the power, and the second one what is left of it.
  obtain ⟨k, rfl⟩ : ∃ k : ℕ, e = -308 - ((k + 1 : ℕ) : ℤ) := ⟨(-e).toNat - 309, by omega⟩
  have rest : (-308 - ((k + 1 : ℕ) : ℤ) + 308) = -((k + 1 : ℕ) : ℤ) := by omega
  have magnitude : (-((k + 1 : ℕ) : ℤ)).natAbs = k + 1 := by omega
  have unit := unitsPerOne_cast_pos
  have second : scaled (firstStep s) (-((k + 1 : ℕ) : ℤ)) =
      (unitsAt (firstStep s) * unitsPerOne, 10 ^ (k + 1) * unitsPerOne) := by
    rw [scaled_of_neg _ (by omega), magnitude, unitsAt_powerOfTen (by omega)]
  have power : (10 : ℚ) ≤ 10 ^ (k + 1) := le_self_pow₀ (by norm_num) (Nat.succ_ne_zero k)
  have number : inUnits s (-308 - ((k + 1 : ℕ) : ℤ)) =
      s * unitsPerOne / 10 ^ 308 / 10 ^ (k + 1) := by
    have none : (-308 - ((k + 1 : ℕ) : ℤ)).toNat = 0 := by omega
    have some : (-(-308 - ((k + 1 : ℕ) : ℤ))).toNat = 308 + (k + 1) := by omega
    rw [inUnits, none, some, pow_zero, mul_one, pow_add, div_div]
  have quotient : ((unitsAt (firstStep s) * unitsPerOne : ℕ) : ℚ) /
      ((10 ^ (k + 1) * unitsPerOne : ℕ) : ℚ) = unitsAt (firstStep s) / 10 ^ (k + 1) := by
    rw [Nat.cast_mul, Nat.cast_mul, cast_powerOfTen, mul_div_mul_right _ _ unit.ne']
  obtain ⟨up, down⟩ := firstStep_near s
  refine ⟨unitsAt (firstStep s) * unitsPerOne, 10 ^ (k + 1) * unitsPerOne,
    Nat.mul_pos (ten_pow_pos _) unitsPerOne_pos, ?_, ?_, fun finite => ?_⟩
  · rw [number, quotient]
    refine .div_of_le (up.imp_right fun half => half.trans ?_) power
    exact add_le_add_right (by norm_num) _
  · rw [number, quotient]
    exact .div_of_le down power
  · rw [scale_deep pos small deep, rest, scale_ofRank (firstStep_lt small) (by omega), second]
    rw [second]
    exact finite

theorem scalesNear (pos : 0 < s) (small : s < 2 ^ 64) (least : -324 ≤ e) (greatest : e ≤ 308) :
    ScalesNear s e := by
  rcases lt_or_ge e (-308) with deep | near
  · exact scalesNear_of_deep pos small least deep
  · exact scalesNear_of_near small (by omega)

/-! ### Ranks of scaled significands -/

/-- Scaling gives a finite positive number whose rank is at most two from `r`. -/
def ScalesTo (s : ℕ) (e : ℤ) (r : ℕ) : Prop :=
  ∃ r', scale (.ofNat s) e = some (ofRank false r') ∧ 0 < r' ∧ r' < 2047 * 2 ^ 52 ∧ r' ≤ r + 2 ∧
    r ≤ r' + 2

theorem ScalesNear.scalesTo (scales : ScalesNear s e) (near : NearestDecimal s e r) (inner : 3 ≤ r)
    (far : r + 2 < 2047 * 2 ^ 52) : ScalesTo s e r := by
  obtain ⟨r', scale, above, below⟩ := scales.exists_rank near far
  exact ⟨r', scale, by omega, by omega, above, below⟩

section OneByOne

variable {r' : ℕ} (small : s < 2 ^ 64) (finite : r' < 2047 * 2 ^ 52)

include small finite

theorem scale_eq_of_near (near : e.natAbs ≤ 308)
    (rank : nearestRank (scaled (wholeRank s) e).1 (scaled (wholeRank s) e).2 = r') :
    scale (.ofNat s) e = some (ofRank false r') := by
  rw [ofNat_eq_ofRank, scale_ofRank (wholeRank_significand_lt small) near (rank ▸ finite), rank]

theorem scale_eq_of_deep (pos : 0 < s) (deep : e < -308) (near : (e + 308).natAbs ≤ 308)
    (rank : nearestRank (scaled (firstStep s) (e + 308)).1 (scaled (firstStep s) (e + 308)).2 =
      r') : scale (.ofNat s) e = some (ofRank false r') := by
  rw [scale_deep pos small deep, scale_ofRank (firstStep_lt small) near (rank ▸ finite), rank]

end OneByOne

/-- The ranks next to zero and to infinity, which two steps could leave. -/
theorem scalesTo_shortest_of_end (ends : r = 1 ∨ r = 2 ∨ r = 2047 * 2 ^ 52 - 2 ∨
    r = 2047 * 2 ^ 52 - 1) : ScalesTo (shortest r).1 (shortest r).2 r := by
  rcases ends with rfl | rfl | rfl | rfl
  · have found : shortest 1 = (5, -324) := by decide +kernel
    have scale := @scale_eq_of_deep 5 (-324) 1 (by decide) (by decide) (by decide) (by decide)
      (by decide) (by decide +kernel)
    rw [found]
    exact ⟨1, scale, by decide, by decide, by decide, by decide⟩
  · have found : shortest 2 = (1, -323) := by decide +kernel
    have scale := @scale_eq_of_deep 1 (-323) 2 (by decide) (by decide) (by decide) (by decide)
      (by decide) (by decide +kernel)
    rw [found]
    exact ⟨2, scale, by decide, by decide, by decide, by decide⟩
  · have found : shortest (2047 * 2 ^ 52 - 2) = (17976931348623155, 292) := by decide +kernel
    have scale := @scale_eq_of_near 17976931348623155 292 (2047 * 2 ^ 52 - 1) (by decide)
      (by decide) (by decide) (by decide +kernel)
    rw [found]
    exact ⟨_, scale, by decide, by decide, by decide, by decide⟩
  · have found : shortest (2047 * 2 ^ 52 - 1) = (17976931348623157, 292) := by decide +kernel
    have scale := @scale_eq_of_near 17976931348623157 292 (2047 * 2 ^ 52 - 1) (by decide)
      (by decide) (by decide) (by decide +kernel)
    rw [found]
    exact ⟨_, scale, by decide, by decide, by decide, by decide⟩

/-- Their digits are not counted in units, nor close to that. -/
theorem shortest_snd_of_end (ends : r = 1 ∨ r = 2 ∨ r = 2047 * 2 ^ 52 - 2 ∨
    r = 2047 * 2 ^ 52 - 1) : (shortest r).2 < 0 ∨ 16 < (shortest r).2 := by
  rcases ends with rfl | rfl | rfl | rfl <;> decide +kernel

/-- The shortest digits of a magnitude are scaled to a rank at most two from its own. -/
theorem scalesTo_shortest (pos : 0 < r) (finite : r < 2047 * 2 ^ 52) :
    ScalesTo (shortest r).1 (shortest r).2 r := by
  by_cases ends : r = 1 ∨ r = 2 ∨ r = 2047 * 2 ^ 52 - 2 ∨ r = 2047 * 2 ^ 52 - 1
  · exact scalesTo_shortest_of_end ends
  · have small : (shortest r).1 < 2 ^ 64 := (shortest_lt pos finite).trans (by decide)
    have scales := scalesNear (shortest_pos pos finite) small (le_shortest_snd pos finite)
      (shortest_snd_le pos finite)
    exact scales.scalesTo (nearestDecimal_shortest pos finite) (by omega) (by omega)

/-- Short significands and small powers are kept by rounding, and the product is rounded once. -/
theorem scale_exact (small : s < 2 ^ 53) (near : e.natAbs < 23) (nearest : NearestDecimal s e r)
    (finite : r < 2047 * 2 ^ 52) : scale (.ofNat s) e = some (ofRank false r) := by
  have pos := ten_pow_pos (-e).toNat
  apply scale_eq_of_near (small.trans (by decide)) finite (by omega)
  refine (nearest_nearestRank _ (scaled_snd_pos _ e)).unique nearest (scaled_snd_pos _ e) pos ?_
  rcases le_or_gt 0 e with up | down
  · have none : (-e).toNat = 0 := by omega
    have some : e.toNat = e.natAbs := by omega
    rw [scaled_of_nonneg _ up, unitsAt_wholeRank small, unitsAt_powerOfTen near, none, some]
    ring
  · have none : e.toNat = 0 := by omega
    have some : (-e).toNat = e.natAbs := by omega
    rw [scaled_of_neg _ down, unitsAt_wholeRank small, unitsAt_powerOfTen near, none, some]
    ring

end Floodgate.Json.Numeral
