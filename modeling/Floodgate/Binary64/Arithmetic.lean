import Floodgate.Binary64.Rounding

/-!
# Arithmetic on binary64 numbers

Each operation on finite numbers is the exact result on their units, rounded once. Sums that
cancel are positive zero, and only negative zero plus negative zero is negative zero.

## Main definitions

* `Binary64.add`, `Binary64.sub`, `Binary64.mul`, `Binary64.div`
* `Binary64.floorBelow` — the whole part, held between zero and a limit
-/

namespace Floodgate.Binary64

/-- The sum, rounded once. -/
def add : Binary64 → Binary64 → Binary64
  | .nan, _ | _, .nan => .nan
  | .infinite s, .infinite t => if s = t then .infinite s else .nan
  | .infinite s, .finite .. => .infinite s
  | .finite .., .infinite t => .infinite t
  | .finite s r h, .finite t q k =>
    let total := units (.finite s r h) + units (.finite t q k)
    if total = 0 then .finite (s && t) 0 zero_lt_infinity
    else ofUnits (decide (total < 0)) total.natAbs 1

/-- The difference, rounded once. -/
def sub (x y : Binary64) : Binary64 := add x (neg y)

/-- The product, rounded once. -/
def mul : Binary64 → Binary64 → Binary64
  | .nan, _ | _, .nan => .nan
  | .infinite s, .infinite t => .infinite (s ^^ t)
  | .infinite s, .finite t q _ => if q = 0 then .nan else .infinite (s ^^ t)
  | .finite s r _, .infinite t => if r = 0 then .nan else .infinite (s ^^ t)
  | .finite s r _, .finite t q _ => ofUnits (s ^^ t) (unitsAt r * unitsAt q) unitsPerOne

/-- The quotient, rounded once. -/
def div : Binary64 → Binary64 → Binary64
  | .nan, _ | _, .nan => .nan
  | .infinite _, .infinite _ => .nan
  | .infinite s, .finite t _ _ => .infinite (s ^^ t)
  | .finite s _ _, .infinite t => .finite (s ^^ t) 0 zero_lt_infinity
  | .finite s r _, .finite t q _ =>
    if q = 0 then (if r = 0 then .nan else .infinite (s ^^ t))
    else ofUnits (s ^^ t) (unitsAt r * unitsPerOne) (unitsAt q)

instance : Add Binary64 := ⟨add⟩
instance : Sub Binary64 := ⟨sub⟩
instance : Mul Binary64 := ⟨mul⟩
instance : Div Binary64 := ⟨div⟩

/-- The greatest whole number that is at most `x`, taken to the nearer end when it lies outside
`0` to `limit`; NaN counts as zero. -/
def floorBelow (limit : Nat) : Binary64 → Nat
  | .nan | .infinite true | .finite true .. => 0
  | .infinite false => limit
  | .finite false r _ => min limit (unitsAt r / unitsPerOne)

theorem floorBelow_le (limit : Nat) (x : Binary64) : x.floorBelow limit ≤ limit := by
  unfold floorBelow; split <;> omega

example : ofRatio 1 10 + ofRatio 2 10 = ofBits 0x3fd3333333333334 := by decide +kernel
example : (one - one, neg zero + neg zero, one / zero) = (zero, neg zero, .infinite false) := by
  decide +kernel

end Floodgate.Binary64
