import Floodgate.Binary64.Basic

/-!
# Rounding to the nearest binary64 number

An exact nonnegative quotient `n / d`, counted in units of `2 ^ -1074`, goes to the nearest
magnitude, and a quotient halfway between two magnitudes goes to the one of even rank. A quotient
beyond the last finite magnitude by at least half a step becomes infinite.

## Main definitions

* `Binary64.floorRank` — the last magnitude that is at most a given whole number of units
* `Binary64.nearestRank` — the rank nearest a quotient of units
* `Binary64.ofUnits` — a signed quotient of units, rounded
* `Binary64.ofRatio`, `Binary64.ofNat` — a quotient of whole numbers, rounded
-/

namespace Floodgate.Binary64

/-- The exponent of the spacing around a whole number of units: `2 ^ 52` and more units have
their 53 leading bits kept, fewer units are all kept. -/
def spacingLog (q : Nat) : Nat := q.log2 - 52

/-- The rank of the greatest magnitude that is at most `q` units. Ranks at and above
`2047 * 2 ^ 52` stand for magnitudes past the finite ones. -/
def floorRank (q : Nat) : Nat := spacingLog q * 2 ^ 52 + q / 2 ^ spacingLog q

/-- The rank of the magnitude nearest `n / d` units, of two equally near the even one. -/
def nearestRank (n d : Nat) : Nat :=
  let low := floorRank (n / d)
  let past := 2 * (n - d * unitsAt low)
  let step := d * 2 ^ spacingLog (n / d)
  if step < past ∨ (step = past ∧ low % 2 = 1) then low + 1 else low

/-- The number of rank `rank`, infinite from the first rank that is not finite. -/
def ofRank (negative : Bool) (rank : Nat) : Binary64 :=
  if h : rank < 2047 * 2 ^ 52 then .finite negative rank h else .infinite negative

/-- `n / d` units under a sign, rounded to nearest. -/
def ofUnits (negative : Bool) (n d : Nat) : Binary64 :=
  ofRank negative (nearestRank n d)

/-- The quotient `n / d`, rounded to nearest. -/
def ofRatio (n d : Nat) : Binary64 := ofUnits false (n * unitsPerOne) d

/-- A whole number, rounded to nearest. -/
def ofNat (n : Nat) : Binary64 := ofRatio n 1

theorem floorRank_of_lt {q : Nat} (h : q < 2 ^ 53) : floorRank q = q := by
  have hlog : spacingLog q = 0 := by
    unfold spacingLog
    by_cases hq : q = 0
    · subst hq; decide
    · have := (Nat.log2_lt hq (k := 53)).2 h
      omega
  simp [floorRank, hlog]

theorem nearestRank_zero (d : Nat) : nearestRank 0 d = 0 := by
  have h : floorRank 0 = 0 := floorRank_of_lt (by decide)
  simp [nearestRank, h]

example : ofNat 1 = one := by decide +kernel

/-- One above `2 ^ 53` lies halfway and goes to the even neighbour. -/
example : ofNat (2 ^ 53 + 1) = ofNat (2 ^ 53) := by decide +kernel

end Floodgate.Binary64
