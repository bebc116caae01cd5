import Floodgate.Text.Decimal
import Floodgate.Power

/-!
# Reading whole numbers of 64 bits

A sign may stand before the digits. A text is judged from front to back, so a number that grows
too large is told before a wrong character that follows.

## Main definitions

* `Integer.Fault` — what is wrong with a text
* `Integer.read` — the number that a text stands for
-/

namespace Floodgate.Integer

/-- What is wrong with the text of a number. -/
inductive Fault where
  | empty | wrongDigit | tooLarge | tooSmall
  deriving DecidableEq, Repr

/-- What is said of the text. -/
def Fault.message : Fault → String
  | empty => "cannot parse integer from empty string"
  | wrongDigit => "invalid digit found in string"
  | tooLarge => "number too large to fit in target type"
  | tooSmall => "number too small to fit in target type"

/-- Append digits to a number that may not exceed a limit. -/
def accumulate (limit : Nat) (beyond : Fault) : Nat → List Char → Except Fault Nat
  | n, [] => .ok n
  | n, c :: cs =>
    let n := 10 * n + Decimal.digitValue c
    if !c.isDigit then .error .wrongDigit
    else if limit < n then .error beyond
    else accumulate limit beyond n cs

/-- One or more digits. -/
def magnitude (limit : Nat) (beyond : Fault) (ds : List Char) : Except Fault Nat :=
  if ds.isEmpty then .error .wrongDigit else accumulate limit beyond 0 ds

/-- The number that a text stands for, from `-2 ^ 63` to `2 ^ 63 - 1`. -/
def read (cs : List Char) : Except Fault Int :=
  match cs with
  | [] => .error .empty
  | '-' :: ds => (magnitude (2 ^ 63) .tooSmall ds).map fun n => -(n : Int)
  | '+' :: ds => (magnitude (2 ^ 63 - 1) .tooLarge ds).map fun n => (n : Int)
  | ds => (magnitude (2 ^ 63 - 1) .tooLarge ds).map fun n => (n : Int)

/-- The text of a number. -/
def text (n : Int) : String :=
  if n < 0 then "-" ++ Decimal.text n.natAbs else Decimal.text n.natAbs

example : (read "-9223372036854775808".toList).toOption = some (-2 ^ 63) := by decide
example : (read "9223372036854775808".toList).toOption = none := by decide

end Floodgate.Integer
