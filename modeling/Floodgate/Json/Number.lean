import Floodgate.Binary64.Arithmetic
import Floodgate.Json.Fault
import Floodgate.Text.Decimal

/-!
# Reading JSON numbers

A whole number that fits 64 bits is read exactly. Any other number is read as a binary64 one: as
many leading digits as fit 64 bits make its significand, the other digits only move the
exponent, and the significand is rounded and then scaled by a rounded power of ten. Numbers
beyond the finite ones are refused.

## Main definitions

* `Json.Numeral` — the digits of a number as they are written
* `Json.Number` — what a number is read as
* `Numeral.value` — the number of a numeral
-/

namespace Floodgate.Json

/-- A number as it is written. A missing fraction has no digits. -/
structure Numeral where
  negative : Bool
  whole : List Char
  fraction : List Char
  /-- Whether the exponent is negative, and its digits. -/
  exponent : Option (Bool × List Char)

/-- What a number is read as. -/
inductive Number where
  | natural (n : Nat)
  /-- The whole number `-n`. -/
  | negative (n : Nat)
  | real (x : Binary64)
  deriving DecidableEq

/-- One or more digits off the front of a text. -/
def readDigits : Reader (List Char) := fun cs =>
  match Decimal.leading cs, Decimal.afterLeading cs with
  | [], [] => .error .truncated
  | [], _ :: _ => .error .malformed
  | ds, rest => .ok (ds, rest)

namespace Numeral

/-- The whole part: no zero stands before another digit. -/
def readWhole : Reader (List Char) := fun cs => do
  let (ds, rest) ← readDigits cs
  if ds.head? = some '0' ∧ ds ≠ ['0'] then .error .malformed else .ok (ds, rest)

/-- The fraction, if there is a point. -/
def readFraction : Reader (List Char) := fun cs =>
  match cs with
  | '.' :: rest => readDigits rest
  | _ => .ok ([], cs)

/-- The exponent, if there is a mark. -/
def readExponent : Reader (Option (Bool × List Char)) := fun cs =>
  match cs with
  | [] => .ok (none, cs)
  | mark :: rest =>
    if mark = 'e' ∨ mark = 'E' then do
      let (negative, rest) := match rest with
        | '-' :: rest => (true, rest)
        | '+' :: rest => (false, rest)
        | rest => (false, rest)
      let (ds, rest) ← readDigits rest
      .ok (some (negative, ds), rest)
    else .ok (none, cs)

/-- A number as it is written. -/
def read : Reader Numeral := fun cs => do
  let (negative, cs) := match cs with
    | '-' :: cs => (true, cs)
    | cs => (false, cs)
  let (whole, cs) ← readWhole cs
  let (fraction, cs) ← readFraction cs
  let (exponent, cs) ← readExponent cs
  .ok (⟨negative, whole, fraction, exponent⟩, cs)

/-- Append digits to a significand as long as it fits 64 bits; also how many did not fit. -/
def absorb : Nat → List Char → Nat × Nat
  | s, [] => (s, 0)
  | s, d :: ds =>
    let t := 10 * s + Decimal.digitValue d
    if t < 2 ^ 64 then absorb t ds else (s, ds.length + 1)

/-- A power of ten, rounded. -/
def powerOfTen (k : Nat) : Binary64 := .ofNat (10 ^ k)

/-- A number times a power of ten, in steps whose powers are finite; `none` when the result is
not finite. -/
def scale (x : Binary64) (e : Int) : Option Binary64 :=
  if e.natAbs ≤ 308 then
    if 0 ≤ e then
      let y := x * powerOfTen e.natAbs
      if y.isFinite then some y else none
    else some (x / powerOfTen e.natAbs)
  else if x = .zero then some x
  else if 0 ≤ e then none
  else scale (x / powerOfTen 308) (e + 308)
termination_by (-e).toNat
decreasing_by omega

/-- A significand times a power of ten under a sign. -/
def real (negative : Bool) (significand : Nat) (e : Int) : Option Number :=
  (scale (.ofNat significand) e).map fun x => .real (if negative then -x else x)

/-- The greatest exponent that is counted with. -/
def greatestExponent : Nat := 2 ^ 31 - 1

/-- The number a numeral stands for; `none` when it is out of range. -/
def value (m : Numeral) : Option Number :=
  let (s, excess) := absorb 0 m.whole
  match m.exponent with
  | none =>
    if excess = 0 ∧ m.fraction = [] then
      -- Zero under a sign, and what does not fit 64 bits with a sign, is no whole number.
      if !m.negative then some (.natural s)
      else if 0 < s ∧ s ≤ 2 ^ 63 then some (.negative s)
      else some (.real (-.ofNat s))
    else
      let (s, left) := absorb s m.fraction
      real m.negative s (excess + left - m.fraction.length)
  | some (down, ds) =>
    let (s, left) := absorb s m.fraction
    let e : Int := excess + left - m.fraction.length
    let k := Decimal.value ds
    -- Such an exponent outweighs any number of digits.
    if greatestExponent < k then
      if s ≠ 0 ∧ !down then none
      else some (.real (if m.negative then -.zero else .zero))
    else real m.negative s (if down then e - k else e + k)

end Numeral

/-- A number off the front of a text. -/
def readNumber : Reader Number := fun cs => do
  let (m, cs) ← Numeral.read cs
  match m.value with
  | some n => .ok (n, cs)
  | none => .error .malformed

/-- What follows a number whose value does not matter. An early end is no number. -/
def skipNumber (cs : List Char) : Except Fault (List Char) :=
  match Numeral.read cs with
  | .ok (_, cs) => .ok cs
  | .error _ => .error .malformed

end Floodgate.Json
