import Floodgate.Binary64.Shortest
import Floodgate.Text.Hexadecimal

/-!
# JSON values and their text

Objects keep their members in order. The text is compact: no blanks, numbers in their shortest
form, and `null` for a number that is not finite.

## Main definitions

* `Json` — values
* `Json.escape` — one character inside a JSON string
* `Json.write` — the text of a value
-/

namespace Floodgate

/-- A JSON value. Whole numbers are kept apart from binary64 ones. -/
inductive Json where
  | null
  | bool (b : Bool)
  | natural (n : Nat)
  | number (x : Binary64)
  | text (s : String)
  | array (items : List Json)
  | object (members : List (String × Json))

namespace Json

/-- One character inside a string. Only quotes, backslashes and controls are escaped. -/
def escape (c : Char) : List Char :=
  if c = '"' then ['\\', '"']
  else if c = '\\' then ['\\', '\\']
  else if c = '\x08' then ['\\', 'b']
  else if c = '\x0c' then ['\\', 'f']
  else if c = '\n' then ['\\', 'n']
  else if c = '\r' then ['\\', 'r']
  else if c = '\t' then ['\\', 't']
  else if c.toNat < 0x20 then
    ['\\', 'u', '0', '0', Hexadecimal.digitChar (c.toNat / 16),
      Hexadecimal.digitChar (c.toNat % 16)]
  else [c]

/-- A text as a JSON string. -/
def writeText (s : String) : List Char := '"' :: s.toList.flatMap escape ++ ['"']

/-- Numbers are positional from `1e-5` up to below `1e16`, with a fraction even when they are
whole. -/
def numberLayout : Binary64.Layout := ⟨some (-5), some 15, true, true⟩

/-- A binary64 number as JSON. -/
def writeNumber (x : Binary64) : List Char :=
  (Binary64.write numberLayout x).getD ['n', 'u', 'l', 'l']

mutual

/-- The text of a value. -/
def write : Json → List Char
  | .null => ['n', 'u', 'l', 'l']
  | .bool true => ['t', 'r', 'u', 'e']
  | .bool false => ['f', 'a', 'l', 's', 'e']
  | .natural n => Decimal.digits n
  | .number x => writeNumber x
  | .text s => writeText s
  | .array items => '[' :: writeItems items
  | .object members => '\x7b' :: writeMembers members

/-- The items of an array and its closing bracket. -/
def writeItems : List Json → List Char
  | [] => [']']
  | [v] => write v ++ [']']
  | v :: vs => write v ++ ',' :: writeItems vs

/-- The members of an object and its closing brace. -/
def writeMembers : List (String × Json) → List Char
  | [] => ['\x7d']
  | [(k, v)] => writeText k ++ ':' :: write v ++ ['\x7d']
  | (k, v) :: ms => writeText k ++ ':' :: write v ++ ',' :: writeMembers ms

end

/-- The text of a value as a string. -/
def render (v : Json) : String := String.ofList v.write

end Json

end Floodgate
