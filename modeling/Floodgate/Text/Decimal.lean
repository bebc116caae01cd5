/-!
# Decimal digits

Whole numbers as runs of the ten ASCII digits, most significant first.

## Main definitions

* `Decimal.digits` — the digits of a number, without leading zeros
* `Decimal.value` — the number that a run of digits spells
* `Decimal.leading`, `Decimal.afterLeading` — the digits a text begins with, and the rest

## Main results

* `value_digits` — the digits of a number spell that number
* `leading_append_afterLeading` — the two parts of a text make up the text
-/

namespace Floodgate.Decimal

/-- The digit character of a number below ten. -/
def digitChar (d : Nat) : Char := Char.ofNat (48 + d)

/-- The number a digit character stands for. -/
def digitValue (c : Char) : Nat := c.toNat - 48

/-- The digits of a number; zero is one digit. -/
def digits (n : Nat) : List Char :=
  if n < 10 then [digitChar n] else digits (n / 10) ++ [digitChar (n % 10)]
termination_by n
decreasing_by omega

/-- The number a run of digits spells; an empty run spells zero. -/
def value (ds : List Char) : Nat := ds.foldl (fun n c => 10 * n + digitValue c) 0

/-- The digits at the start of a text. -/
def leading (cs : List Char) : List Char := cs.takeWhile Char.isDigit

/-- What follows the digits at the start of a text. -/
def afterLeading (cs : List Char) : List Char := cs.dropWhile Char.isDigit

/-- The digits of a number as a string. -/
def text (n : Nat) : String := String.ofList (digits n)

theorem digitValue_digitChar {d : Nat} (h : d < 10) : digitValue (digitChar d) = d := by
  revert h; revert d; decide

theorem isDigit_digitChar {d : Nat} (h : d < 10) : (digitChar d).isDigit = true := by
  revert h; revert d; decide

theorem value_append_singleton (ds : List Char) (c : Char) :
    value (ds ++ [c]) = 10 * value ds + digitValue c := by
  simp [value, List.foldl_append]

theorem value_digits (n : Nat) : value (digits n) = n := by
  induction n using digits.induct with
  | case1 n h => rw [digits, if_pos h]; simp [value, digitValue_digitChar h]
  | case2 n h ih =>
    rw [digits, if_neg h, value_append_singleton, ih, digitValue_digitChar (by omega)]
    omega

theorem isDigit_of_mem_digits {n : Nat} {c : Char} (h : c ∈ digits n) : c.isDigit = true := by
  induction n using digits.induct with
  | case1 n hn =>
    rw [digits, if_pos hn] at h
    rw [List.mem_singleton.1 h]; exact isDigit_digitChar hn
  | case2 n hn ih =>
    rw [digits, if_neg hn] at h
    rcases List.mem_append.1 h with h | h
    · exact ih h
    · rw [List.mem_singleton.1 h]; exact isDigit_digitChar (by omega)

theorem digits_ne_nil (n : Nat) : digits n ≠ [] := by
  rw [digits]; split <;> simp

theorem leading_append_afterLeading (cs : List Char) : leading cs ++ afterLeading cs = cs :=
  List.takeWhile_append_dropWhile

end Floodgate.Decimal
