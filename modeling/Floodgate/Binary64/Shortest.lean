import Floodgate.Binary64.Rounding
import Floodgate.Text.Decimal

/-!
# Shortest decimal text of binary64 numbers

A finite number is written with the fewest digits that read back as that number; of the texts
with that many digits the nearest is taken, and of two equally near ones the even one.

The reals that round to a magnitude are those between the midpoints to its two neighbours, the
midpoints included when its rank is even. The decimal grids `10 ^ 309`, `10 ^ 308`, … are tried
in turn: the first that has a point among those reals has the fewest digits.

## Main definitions

* `Binary64.roundsBack` — whether a point of a decimal grid rounds to a magnitude
* `Binary64.onGrid` — the point of one decimal grid chosen for a magnitude, if it has any
* `Binary64.shortest` — the shortest digits of a magnitude and the power of ten they count
* `Binary64.Layout`, `Binary64.write` — where the point goes and when an exponent is written
-/

namespace Floodgate.Binary64

/-- The numerator and denominator that turn half units into multiples of `10 ^ grid`. -/
def gridScale (grid : Int) : Nat × Nat :=
  match grid with
  | .ofNat g => (1, 2 * unitsPerOne * 10 ^ g)
  | .negSucc g => (10 ^ (g + 1), 2 * unitsPerOne)

/-- The multiple `d` of `10 ^ grid` rounds to the magnitude at a rank. A midpoint rounds to the
even one of its two neighbours. -/
def roundsBack (rank : Nat) (grid : Int) (d : Nat) : Bool :=
  let (num, den) := gridScale grid
  let low := (unitsAt (rank - 1) + unitsAt rank) * num
  let high := (unitsAt rank + unitsAt (rank + 1)) * num
  if rank % 2 = 0 then low ≤ d * den && d * den ≤ high else low < d * den && d * den < high

/-- The multiple of `10 ^ grid` chosen for the magnitude at a rank: one of the two multiples
around it that round to it, the nearer one, of equally near ones the even. -/
def onGrid (rank : Nat) (grid : Int) : Option Nat :=
  let (num, den) := gridScale grid
  let exact := 2 * unitsAt rank * num
  let below := exact / den
  -- Twice the way from the multiple below to the exact value, against one whole step.
  let past := 2 * (exact - below * den)
  match roundsBack rank grid below, roundsBack rank grid (below + 1) with
  | true, true =>
    if past < den ∨ (past = den ∧ below % 2 = 0) then some below else some (below + 1)
  | true, false => some below
  | false, true => some (below + 1)
  | false, false => none

/-- The first grid at or under `309 - tried` with a point for the magnitude. -/
def shortestFrom (rank tried : Nat) : Nat → Nat × Int
  | 0 => (0, 0)
  | fuel + 1 =>
    let grid : Int := 309 - (tried : Int)
    match onGrid rank grid with
    | some d => (d, grid)
    | none => shortestFrom rank (tried + 1) fuel

/-- The shortest digits of the magnitude at a positive rank, and the power of ten they count.
The grid `10 ^ -324` is finer than the least magnitude, so the search ends there at the latest. -/
def shortest (rank : Nat) : Nat × Int := shortestFrom rank 0 634

/-- How the digits of a number are laid out. -/
structure Layout where
  /-- The least decimal exponent that is written without an exponent part. -/
  leastPlain : Option Int
  /-- The greatest decimal exponent that is written without an exponent part. -/
  greatestPlain : Option Int
  /-- A positive exponent carries a plus sign. -/
  plusSign : Bool
  /-- A whole number written without exponent ends in `.0`. -/
  wholePoint : Bool

namespace Layout

/-- An exponent is written without exponent part. -/
def isPlain (l : Layout) (e : Int) : Bool :=
  l.leastPlain.all (· ≤ e) && l.greatestPlain.all (e ≤ ·)

/-- Digits with the point put after the first `point` of them, zeros filling what is missing. -/
def plain (l : Layout) (ds : List Char) (point : Int) : List Char :=
  match point with
  | .negSucc k => '0' :: '.' :: (List.replicate (k + 1) '0' ++ ds)
  | .ofNat 0 => '0' :: '.' :: ds
  | .ofNat k =>
    if ds.length ≤ k then
      ds ++ List.replicate (k - ds.length) '0' ++ (if l.wholePoint then ['.', '0'] else [])
    else ds.take k ++ '.' :: ds.drop k

/-- Digits with the point after the first and an exponent part. -/
def scientific (l : Layout) (ds : List Char) (e : Int) : List Char :=
  let mantissa := match ds with
    | d :: r => if r.isEmpty then [d] else d :: '.' :: r
    | [] => []
  let sign := if e < 0 then ['-'] else if l.plusSign then ['+'] else []
  mantissa ++ 'e' :: sign ++ Decimal.digits e.natAbs

/-- The digits counted in a power of ten, laid out. -/
def write (l : Layout) (ds : List Char) (grid : Int) : List Char :=
  let point := grid + (ds.length : Int)
  if l.isPlain (point - 1) then l.plain ds point else l.scientific ds (point - 1)

end Layout

/-- The text of a finite number in a layout; `none` for the others. -/
def write (l : Layout) : Binary64 → Option (List Char)
  | .finite s r _ =>
    let body := if r = 0 then '0' :: (if l.wholePoint then ['.', '0'] else [])
      else let (d, grid) := shortest r; l.write (Decimal.digits d) grid
    some (if s then '-' :: body else body)
  | _ => none

end Floodgate.Binary64
