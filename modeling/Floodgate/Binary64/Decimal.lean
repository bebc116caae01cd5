import Floodgate.Binary64.Rounding
import Floodgate.Text.Decimal

/-!
# Reading decimal numerals

A numeral is an optional sign, then digits with at most one point among or around them and an
optional exponent, or one of the words `inf`, `infinity` and `nan` in any case. Its value is
rounded to the nearest binary64 number once, whatever the number of digits.

## Main definitions

* `Binary64.ofDecimal` — `digits * 10 ^ exponent`, rounded
* `Binary64.read` — the number a numeral stands for, or what is wrong with the text
-/

namespace Floodgate.Binary64

/-- `digits * 10 ^ exponent` under a sign, rounded to nearest. Exponents that are out of reach
for a finite or a positive result are settled without raising ten to them. -/
def ofDecimal (negative : Bool) (digits : Nat) (exponent : Int) : Binary64 :=
  if digits = 0 then .finite negative 0 zero_lt_infinity
  else match exponent with
    | .ofNat k =>
      if 400 < k then .infinite negative else ofUnits negative (digits * 10 ^ k * unitsPerOne) 1
    | .negSucc k =>
      if digits.log2 + 1077 < 3 * (k + 1) then .finite negative 0 zero_lt_infinity
      else ofUnits negative (digits * unitsPerOne) (10 ^ (k + 1))

/-- Why a text is no numeral. -/
inductive NumeralError where
  | empty
  | malformed
  deriving DecidableEq, Repr

/-- What is said of a text that is no numeral. -/
def NumeralError.message : NumeralError → String
  | .empty => "cannot parse float from empty string"
  | .malformed => "invalid float literal"

/-- The exponent part of a numeral: nothing, or a mark, an optional sign and digits. -/
def readExponent : List Char → Option Int
  | [] => some 0
  | mark :: rest =>
    if mark = 'e' ∨ mark = 'E' then
      match rest with
      | '-' :: ds => if isNumber ds then some (-(Decimal.value ds : Int)) else none
      | '+' :: ds => if isNumber ds then some (Decimal.value ds) else none
      | ds => if isNumber ds then some (Decimal.value ds) else none
    else none
where
  /-- One or more digits and nothing else. -/
  isNumber (ds : List Char) : Bool := !ds.isEmpty && ds.all Char.isDigit

/-- The digits of an unsigned numeral and the power of ten they are counted in. -/
def readUnsigned (cs : List Char) : Option (Nat × Int) :=
  let whole := Decimal.leading cs
  let (fraction, rest) := match Decimal.afterLeading cs with
    | '.' :: r => (Decimal.leading r, Decimal.afterLeading r)
    | r => ([], r)
  if whole.isEmpty && fraction.isEmpty then none
  else (readExponent rest).map fun e =>
    (Decimal.value (whole ++ fraction), e - (fraction.length : Int))

/-- The number that a word of the numeral language names. -/
def readWord (negative : Bool) (cs : List Char) : Option Binary64 :=
  match String.ofList (cs.map Char.toLower) with
  | "inf" | "infinity" => some (.infinite negative)
  | "nan" => some .nan
  | _ => none

/-- The number a text stands for. -/
def read (cs : List Char) : Except NumeralError Binary64 :=
  match cs with
  | [] => .error .empty
  | '-' :: r => body true r
  | '+' :: r => body false r
  | r => body false r
where
  /-- The number after the sign. -/
  body (negative : Bool) (cs : List Char) : Except NumeralError Binary64 :=
    match readUnsigned cs with
    | some (digits, exponent) => .ok (ofDecimal negative digits exponent)
    | none => match readWord negative cs with
      | some x => .ok x
      | none => .error .malformed

example : (read "9007199254740993".toList).toOption = some (ofBits 0x4340000000000000) := by
  decide +kernel
example : (read "-.5e0".toList).toOption = some (ofBits 0xbfe0000000000000) := by decide +kernel
example : (read "1e".toList).toOption = none := by decide +kernel

end Floodgate.Binary64
