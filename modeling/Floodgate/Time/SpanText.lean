import Floodgate.Time.Span
import Floodgate.Text.Blank
import Floodgate.Text.Decimal

/-!
# Spans as text

A span is written as items, each a number followed by a unit, such as `1h 30s 5ms`. Numbers are
whole or have a fraction, units have several names, and blanks may stand between numbers and
units. The items add up.

## Main definitions

* `TimeUnit` — the units and their names
* `SpanError` — what can be wrong with a text
* `Span.read` — the span a text stands for
* `Span.write` — the text of a span, greatest unit first
-/

namespace Floodgate

/-- The units a span is counted in. A month is a twelfth of a year of 365.25 days. -/
inductive TimeUnit where
  | nanosecond | microsecond | millisecond | second | minute | hour | day | week | month | year
  deriving DecidableEq, Repr

namespace TimeUnit

/-- The unit a name stands for. -/
def ofName? (name : List Char) : Option TimeUnit :=
  match String.ofList name with
  | "nanos" | "nsec" | "ns" => some nanosecond
  | "usec" | "us" | "µs" => some microsecond
  | "millis" | "msec" | "ms" => some millisecond
  | "seconds" | "second" | "secs" | "sec" | "s" => some second
  | "minutes" | "minute" | "mins" | "min" | "m" => some minute
  | "hours" | "hour" | "hrs" | "hr" | "h" => some hour
  | "days" | "day" | "d" => some day
  | "weeks" | "week" | "wks" | "wk" | "w" => some week
  | "months" | "month" | "M" => some month
  | "years" | "year" | "yrs" | "yr" | "y" => some year
  | _ => none

/-- A unit in nanoseconds. -/
def nanos : TimeUnit → Nat
  | nanosecond => 1
  | microsecond => 1000
  | millisecond => 1000000
  | second => 1000000000
  | minute => 60 * 1000000000
  | hour => 3600 * 1000000000
  | day => 86400 * 1000000000
  | week => 604800 * 1000000000
  | month => 2630016 * 1000000000
  | year => 31557600 * 1000000000

/-- The unit is counted in nanoseconds when it stands behind a whole number. -/
def wholeInNanos : TimeUnit → Bool
  | nanosecond | microsecond | millisecond => true
  | _ => false

/-- The unit is counted in nanoseconds when it stands behind a fraction. -/
def fractionInNanos : TimeUnit → Bool
  | nanosecond | microsecond | millisecond | second | minute => true
  | _ => false

end TimeUnit

/-- What is wrong with the text of a span. Offsets count bytes of the text. -/
inductive SpanError where
  /-- There is no number at all. -/
  | empty
  /-- A number should begin here. -/
  | numberExpected (offset : Nat)
  /-- A character that fits neither a number nor a unit. -/
  | invalidCharacter (offset : Nat)
  /-- A number or a sum that 64 bits cannot hold, or a part below one nanosecond. -/
  | numberOverflow
  /-- The name of no unit, behind a number. -/
  | unknownUnit (name : List Char) (value : Nat)
  /-- The seconds were within bounds until the nanoseconds carried into them. -/
  | carryOverflow
  deriving DecidableEq

namespace SpanError

/-- What is said of the text. -/
def message : SpanError → String
  | empty => "value was empty"
  | numberExpected at_ => "expected number at " ++ Decimal.text at_
  | invalidCharacter at_ => "invalid character at " ++ Decimal.text at_
  | numberOverflow => "number is too large or cannot be represented without " ++
      "a lack of precision (values below 1ns are not supported)"
  | unknownUnit [] value =>
    let n := Decimal.text value
    "time unit needed, for example " ++ n ++ "sec or " ++ n ++ "ms"
  | unknownUnit name _ => "unknown time unit \"" ++ String.ofList name ++ "\", supported units: " ++
      "ns, us/µs, ms, sec, min, hours, days, weeks, months, years (and few variations)"
  | carryOverflow => "overflow in Duration::new"

/-- The error stops the program instead of being reported. -/
def isCrash : SpanError → Bool
  | carryOverflow => true
  | _ => false

end SpanError

namespace Span

/-- A number of 64 bits. -/
def fit (n : Nat) : Except SpanError Nat :=
  if n < 2 ^ 64 then .ok n else .error .numberOverflow

/-- A span with seconds and nanoseconds added. A full second of nanoseconds moves into the
seconds in two steps: more than one second when the parts are added, exactly one when the sum is
put together. -/
def plus (total : Span) (seconds nanos : Nat) : Except SpanError Span := do
  let nanos ← fit (total.nanos + nanos)
  -- Exactly one second of nanoseconds stays where it is here.
  let (seconds, nanos) :=
    if nanosPerSecond < nanos then (seconds + nanos / nanosPerSecond, nanos % nanosPerSecond)
    else (seconds, nanos)
  let seconds ← fit (total.seconds.toNat + seconds)
  match carry? seconds nanos with
  | some d => .ok d
  | none => .error .carryOverflow

/-- A fraction of a number, `numerator / denominator`. -/
structure Fraction where
  numerator : Nat
  denominator : Nat

/-- A span with `n` units added. -/
def plusWhole (total : Span) (n : Nat) (u : TimeUnit) : Except SpanError Span := do
  if u.wholeInNanos then total.plus 0 (← fit (n * u.nanos))
  else total.plus (← fit (n * (u.nanos / nanosPerSecond))) 0

/-- A span with a fraction of a unit added, which has to come out exactly. -/
def plusFraction (total : Span) (f : Fraction) (u : TimeUnit) : Except SpanError Span := do
  let scale := if u.fractionInNanos then u.nanos else u.nanos / nanosPerSecond
  let part ← fit (f.numerator * scale)
  if u = .nanosecond ∨ part % f.denominator ≠ 0 then .error .numberOverflow
  else if u.fractionInNanos then total.plus 0 (part / f.denominator)
  else total.plus (part / f.denominator) 0

/-- A span with one item added: a number, its fraction and the name of its unit. -/
def plusItem (total : Span) (n : Nat) (f : Option Fraction) (name : List Char) :
    Except SpanError Span :=
  match TimeUnit.ofName? name with
  | none => .error (.unknownUnit name n)
  | some u => do
    let total ← total.plusWhole n u
    -- Whole part and fraction are added apart, each within 64 bits.
    match f with
    | none => .ok total
    | some f => total.plusFraction f u

/-- A character that a unit's name may hold. -/
def isUnitChar (c : Char) : Bool := c.isAlpha || c == 'µ'

/-- Where the reader is within an item. -/
inductive Phase where
  /-- Before an item; a wrong character is reported at `base`. -/
  | start (base : Nat) (first : Bool)
  /-- In the whole part of a number. -/
  | whole (n : Nat)
  /-- Behind the point of a number; a wrong character is reported at `base`. -/
  | fraction (n : Nat) (f : Fraction) (base : Nat)
  /-- In the name of a unit, its characters last first. -/
  | name (n : Nat) (f : Option Fraction) (reversed : List Char)

/-- The span of a text from `offset` on, given what came before it. -/
def readFrom (cs : List Char) (offset : Nat) (phase : Phase) (total : Span) :
    Except SpanError Span :=
  match cs with
  | [] => match phase with
    | .start _ first => if first then .error .empty else .ok total
    | .whole n => total.plusItem n none []
    | .fraction n f base =>
      if f.denominator = 1 then .error (.invalidCharacter base) else total.plusItem n (some f) []
    | .name n f reversed => total.plusItem n f reversed.reverse
  | c :: rest =>
    let next := offset + c.utf8Size
    match phase with
    | .start base first =>
      if c.isDigit then readFrom rest next (.whole (Decimal.digitValue c)) total
      else if isBlank c then readFrom rest next (.start base first) total
      else .error (.numberExpected base)
    | .whole n =>
      if c.isDigit then do
        readFrom rest next (.whole (← fit (10 * n + Decimal.digitValue c))) total
      else if isBlank c then readFrom rest next (.whole n) total
      else if isUnitChar c then readFrom rest next (.name n none [c]) total
      else if c = '.' then readFrom rest next (.fraction n ⟨0, 1⟩ offset) total
      else .error (.invalidCharacter offset)
    | .fraction n f base =>
      if c.isDigit then do
        let f := ⟨10 * f.numerator + Decimal.digitValue c, ← fit (10 * f.denominator)⟩
        readFrom rest next (.fraction n f next) total
      else if isBlank c then readFrom rest next (.fraction n f next) total
      else if isUnitChar c then
        if f.denominator = 1 then .error (.invalidCharacter base)
        else readFrom rest next (.name n (some f) [c]) total
      else .error (.invalidCharacter base)
    | .name n f reversed =>
      if c.isDigit then do
        let total ← total.plusItem n f reversed.reverse
        readFrom rest next (.whole (Decimal.digitValue c)) total
      else if isBlank c then do
        let total ← total.plusItem n f reversed.reverse
        readFrom rest next (.start next false) total
      else if isUnitChar c then readFrom rest next (.name n f (c :: reversed)) total
      else .error (.invalidCharacter offset)

/-- The span a text stands for. The one number that needs no unit is a lone zero. -/
def read (cs : List Char) : Except SpanError Span :=
  if cs = ['0'] then .ok zero else readFrom cs 0 (.start 0 true) zero

/-! ### Writing -/

/-- An item that is left out when its number is zero. -/
def item (n : Nat) (one many : String) : List (List Char) :=
  if n = 0 then [] else [Decimal.digits n ++ (if n = 1 then one else many).toList]

/-- The items of a span: years of 365.25 days, months, days, and so on down to nanoseconds. -/
def items (d : Span) : List (List Char) :=
  let years := d.seconds.toNat / 31557600
  let inYear := d.seconds.toNat % 31557600
  let months := inYear / 2630016
  let inMonth := inYear % 2630016
  let days := inMonth / 86400
  let inDay := inMonth % 86400
  item years "year" "years" ++ item months "month" "months" ++ item days "day" "days" ++
    item (inDay / 3600) "h" "h" ++ item (inDay % 3600 / 60) "m" "m" ++
    item (inDay % 60) "s" "s" ++ item (d.nanos / 1000000) "ms" "ms" ++
    item (d.nanos / 1000 % 1000) "us" "us" ++ item (d.nanos % 1000) "ns" "ns"

/-- The text of a span: its items with single spaces between them. -/
def write (d : Span) : List Char :=
  if d = zero then ['0', 's'] else [' '].intercalate d.items

end Span

end Floodgate
