import Floodgate.Power

/-!
# Binary64 numbers

The double-precision numbers of the IEEE 754 standard, with a single NaN. A finite number is a
sign and a *rank*: the position of its magnitude in the increasing list of finite magnitudes.
The rank is also the number that the low 63 bits of the standard encoding spell, so encoding and
decoding are sums, and magnitudes are ordered as their ranks are.

Every finite magnitude is a whole number of *units* of `2 ^ -1074`, the least positive one.

## Main definitions

* `Binary64` — NaN, the two infinities and the finite numbers
* `Binary64.unitsAt` — the magnitude at a rank, counted in units
* `Binary64.ofBits`, `Binary64.toBits` — the 64-bit encoding
* `Binary64.position` — where a number that is not NaN stands on the line; zero of either sign
  stands at zero

## Main results

* `unitsAt_lt_unitsAt_succ` — magnitudes strictly increase with their rank
* `ofBits_toBits` — reading the encoding of a number gives that number
-/

namespace Floodgate

/-- A double-precision number. A finite one is a sign and the rank of its magnitude; there are
`2047 * 2 ^ 52` finite magnitudes. -/
inductive Binary64 where
  | nan
  | infinite (negative : Bool)
  | finite (negative : Bool) (rank : Nat) (rank_lt : rank < 2047 * 2 ^ 52)
  deriving DecidableEq

namespace Binary64

/-- The number of units in one. -/
def unitsPerOne : Nat := 2 ^ 1074

/-- The magnitude at a rank, in units. The first `2 ^ 52` ranks count single units; after that
each block of `2 ^ 52` ranks has twice the spacing of the block before. -/
def unitsAt (rank : Nat) : Nat :=
  if rank < 2 ^ 52 then rank else (2 ^ 52 + rank % 2 ^ 52) * 2 ^ (rank / 2 ^ 52 - 1)

theorem zero_lt_infinity : 0 < 2047 * 2 ^ 52 := by decide

/-- Positive zero. -/
def zero : Binary64 := .finite false 0 zero_lt_infinity

/-- The number one. -/
def one : Binary64 := .finite false (1023 * 2 ^ 52) (by decide)

/-- The same magnitude with the other sign. -/
def neg : Binary64 → Binary64
  | .nan => .nan
  | .infinite s => .infinite (!s)
  | .finite s r h => .finite (!s) r h

instance : Neg Binary64 := ⟨neg⟩

/-- Neither NaN nor an infinity. -/
def isFinite : Binary64 → Bool
  | .finite .. => true
  | _ => false

/-- The signed count of units of a finite number; `0` for the others. -/
def units : Binary64 → Int
  | .finite false r _ => unitsAt r
  | .finite true r _ => -unitsAt r
  | _ => 0

/-! ### Encoding -/

/-- The number with a given 64-bit encoding; all NaN encodings are one NaN. -/
def ofBits (bits : UInt64) : Binary64 :=
  let rank := bits.toNat % 2 ^ 63
  let negative := decide (2 ^ 63 ≤ bits.toNat)
  if h : rank < 2047 * 2 ^ 52 then .finite negative rank h
  else if rank = 2047 * 2 ^ 52 then .infinite negative
  else .nan

/-- The 64-bit encoding of a number. -/
def toBits : Binary64 → UInt64
  | .nan => UInt64.ofNat (2047 * 2 ^ 52 + 2 ^ 51)
  | .infinite s => UInt64.ofNat ((if s then 2 ^ 63 else 0) + 2047 * 2 ^ 52)
  | .finite s r _ => UInt64.ofNat ((if s then 2 ^ 63 else 0) + r)

theorem ofBits_toBits (x : Binary64) : ofBits x.toBits = x := by
  cases x with
  | nan => decide
  | infinite s => cases s <;> decide
  | finite s r h =>
    have hs : UInt64.toNat (toBits (.finite s r h)) = (if s then 2 ^ 63 else 0) + r := by
      rw [toBits, UInt64.toNat_ofNat']
      apply Nat.mod_eq_of_lt
      cases s <;> simp <;> omega
    have hr : ((if s then 2 ^ 63 else 0) + r) % 2 ^ 63 = r := by
      cases s
      · simp; omega
      · simp; omega
    have hn : decide (2 ^ 63 ≤ (if s then 2 ^ 63 else 0) + r) = s := by
      cases s
      · simp; omega
      · simp
    simp only [ofBits, hs, hr, hn, h, dite_true]

/-! ### Order -/

/-- Where a number stands on the line, infinities at the two ends; NaN stands nowhere. -/
def position : Binary64 → Option Int
  | .nan => none
  | .infinite false => some (2047 * 2 ^ 52)
  | .infinite true => some (-(2047 * 2 ^ 52))
  | .finite false r _ => some r
  | .finite true r _ => some (-r)

/-- At most; false when one side is NaN. -/
def le (x y : Binary64) : Bool :=
  match x.position, y.position with
  | some a, some b => a ≤ b
  | _, _ => false

/-- Less than; false when one side is NaN. -/
def lt (x y : Binary64) : Bool :=
  match x.position, y.position with
  | some a, some b => a < b
  | _, _ => false

/-- The number, or the nearer bound when it lies outside `low ≤ x ≤ high`. NaN stays NaN. -/
def clamp (x low high : Binary64) : Binary64 :=
  if x.lt low then low else if high.lt x then high else x

theorem lt_irrefl (x : Binary64) : x.lt x = false := by
  unfold lt; cases x.position <;> simp

theorem unitsAt_zero : unitsAt 0 = 0 := rfl

theorem unitsAt_of_lt {r : Nat} (h : r < 2 ^ 52) : unitsAt r = r := if_pos h

/-- In block `k + 1` the magnitudes are `2 ^ 52 + m` steps of `2 ^ k` units. -/
theorem unitsAt_block {k m : Nat} (h : m < 2 ^ 52) :
    unitsAt ((k + 1) * 2 ^ 52 + m) = (2 ^ 52 + m) * 2 ^ k := by
  have h₁ : ¬ (k + 1) * 2 ^ 52 + m < 2 ^ 52 := by omega
  have h₂ : ((k + 1) * 2 ^ 52 + m) % 2 ^ 52 = m := by omega
  have h₃ : ((k + 1) * 2 ^ 52 + m) / 2 ^ 52 - 1 = k := by omega
  rw [unitsAt, if_neg h₁, h₂, h₃]

theorem unitsAt_lt_unitsAt_succ (r : Nat) : unitsAt r < unitsAt (r + 1) := by
  by_cases h : r < 2 ^ 52
  · by_cases h' : r + 1 < 2 ^ 52
    · rw [unitsAt_of_lt h, unitsAt_of_lt h']; omega
    · obtain rfl : r = 2 ^ 52 - 1 := by omega
      decide
  · obtain ⟨k, m, hm, rfl⟩ : ∃ k m, m < 2 ^ 52 ∧ r = (k + 1) * 2 ^ 52 + m :=
      ⟨r / 2 ^ 52 - 1, r % 2 ^ 52, Nat.mod_lt _ (by decide), by omega⟩
    have hk : 0 < 2 ^ k := Nat.two_pow_pos k
    by_cases h' : m + 1 < 2 ^ 52
    · rw [Nat.add_assoc, unitsAt_block hm, unitsAt_block h']
      exact Nat.mul_lt_mul_of_pos_right (by omega) hk
    · have : (k + 1) * 2 ^ 52 + m + 1 = (k + 1 + 1) * 2 ^ 52 + 0 := by omega
      rw [this, unitsAt_block hm, unitsAt_block (by decide), Nat.pow_succ 2 k,
        Nat.mul_comm (2 ^ k) 2, ← Nat.mul_assoc]
      exact Nat.mul_lt_mul_of_pos_right (by omega) hk

end Binary64

end Floodgate
