import Floodgate.Json.Number
import Floodgate.Json.Quoted
import Floodgate.Json.Value
import Floodgate.Text.Quoted

/-!
# Reading single JSON values of a wanted type

A value is read first and judged then. A value of another type is described in the message of
the fault; of an array or an object only the beginning is looked at.

## Main definitions

* `Json.Found` — what a text has where a single value is wanted
* `Json.readBelow`, `Json.readBinary64`, `Json.readString`, `Json.readOptionalString` — readers
  of the types that occur
-/

namespace Floodgate.Json

/-- What a text has at some place. -/
inductive Found where
  | null
  | bool (b : Bool)
  | number (n : Number)
  | text (s : String)
  | array
  | object

/-- How a message names a number. -/
def Number.describe : Number → String
  | .natural n => "integer `" ++ Decimal.text n ++ "`"
  | .negative n => "integer `-" ++ Decimal.text n ++ "`"
  | .real x => "floating point `" ++ String.ofList (writeNumber x) ++ "`"

/-- How a message names what was found. -/
def Found.describe : Found → String
  | .null => "null"
  | .bool true => "boolean `true`"
  | .bool false => "boolean `false`"
  | .number n => n.describe
  | .text s => "string " ++ quoted s
  | .array => "sequence"
  | .object => "map"

/-- A value of another type than the expected one. -/
def Found.wrongType (v : Found) (expected : String) : Fault :=
  .mismatch ("invalid type: " ++ v.describe ++ ", expected " ++ expected)

/-- A value that the expected type does not have. -/
def Found.wrongValue (v : Found) (expected : String) : Fault :=
  .mismatch ("invalid value: " ++ v.describe ++ ", expected " ++ expected)

/-- The value at the front of a text, read to its end if it is a single one. -/
def readFound : Reader Found := fun cs =>
  match skipBlanks cs with
  | [] => .error .truncated
  | c :: cs =>
    if c = '"' then do
      let (s, cs) ← readText cs
      .ok (.text s, cs)
    else if c = '[' then .ok (.array, cs)
    else if c = '\x7b' then .ok (.object, cs)
    else if c = 'n' then do .ok (.null, ← skipWord ['u', 'l', 'l'] cs)
    else if c = 't' then do .ok (.bool true, ← skipWord ['r', 'u', 'e'] cs)
    else if c = 'f' then do .ok (.bool false, ← skipWord ['a', 'l', 's', 'e'] cs)
    else if c = '-' ∨ c.isDigit then do
      let (n, cs) ← readNumber (c :: cs)
      .ok (.number n, cs)
    else .error .malformed

/-- A whole number below a limit; messages call the type by its name. -/
def readBelow (limit : Nat) (name : String) : Reader Nat := fun cs => do
  let (v, cs) ← readFound cs
  match v with
  | .number (.natural n) => if n < limit then .ok (n, cs) else .error (v.wrongValue name)
  | .number (.negative _) => .error (v.wrongValue name)
  | _ => .error (v.wrongType name)

/-- A number of 16 bits. -/
def readUInt16 : Reader UInt16 := fun cs => do
  let (n, cs) ← readBelow (2 ^ 16) "u16" cs
  .ok (UInt16.ofNat n, cs)

/-- A number of 32 bits. -/
def readUInt32 : Reader UInt32 := fun cs => do
  let (n, cs) ← readBelow (2 ^ 32) "u32" cs
  .ok (UInt32.ofNat n, cs)

/-- A binary64 number; whole numbers are rounded. -/
def readBinary64 : Reader Binary64 := fun cs => do
  let (v, cs) ← readFound cs
  match v with
  | .number (.natural n) => .ok (.ofNat n, cs)
  | .number (.negative n) => .ok (-.ofNat n, cs)
  | .number (.real x) => .ok (x, cs)
  | _ => .error (v.wrongType "f64")

/-- A text; messages call it by its role. -/
def readStringAs (role : String) : Reader String := fun cs => do
  let (v, cs) ← readFound cs
  match v with
  | .text s => .ok (s, cs)
  | _ => .error (v.wrongType role)

/-- A text. -/
def readString : Reader String := readStringAs "a string"

/-- A text, or `null` for none. -/
def readOptionalString : Reader (Option String) := fun cs => do
  let (v, cs) ← readFound cs
  match v with
  | .null => .ok (none, cs)
  | .text s => .ok (some s, cs)
  | _ => .error (v.wrongType "a string")

end Floodgate.Json
