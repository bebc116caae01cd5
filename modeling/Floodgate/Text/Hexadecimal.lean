/-!
# Hexadecimal digits

Whole numbers as runs of the sixteen hexadecimal digits, lower case, most significant first, and
the values of digits in either case.

## Main definitions

* `Hexadecimal.digits` — the digits of a number, without leading zeros
* `Hexadecimal.digit?` — the value of a digit
* `Hexadecimal.value?` — the number that a run of digits spells
-/

namespace Floodgate.Hexadecimal

/-- The digit of a number below sixteen. -/
def digitChar (d : Nat) : Char := if d < 10 then Char.ofNat (48 + d) else Char.ofNat (87 + d)

/-- The digits of a number; zero is one digit. -/
def digits (n : Nat) : List Char :=
  if n < 16 then [digitChar n] else digits (n / 16) ++ [digitChar (n % 16)]
termination_by n
decreasing_by omega

/-- The value of a digit of either case. -/
def digit? (c : Char) : Option Nat :=
  if c.isDigit then some (c.toNat - 48)
  else if 'a' ≤ c ∧ c ≤ 'f' then some (c.toNat - 87)
  else if 'A' ≤ c ∧ c ≤ 'F' then some (c.toNat - 55)
  else none

/-- The number a run of digits spells; `none` when one of the characters is no digit. -/
def value? (ds : List Char) : Option Nat :=
  ds.foldlM (fun n c => (digit? c).map (16 * n + ·)) 0

theorem digit?_digitChar {d : Nat} (h : d < 16) : digit? (digitChar d) = some d := by
  revert h; revert d; decide

theorem digits_ne_nil (n : Nat) : digits n ≠ [] := by
  rw [digits]; split <;> simp

end Floodgate.Hexadecimal
