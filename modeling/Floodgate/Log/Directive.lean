import Floodgate.Binary64.Decimal
import Floodgate.Log.Event
import Floodgate.Log.Pattern
import Floodgate.Text.Bytes
import Floodgate.Text.Integer
import Floodgate.Text.Split

/-!
# Log directives

A directive such as `gatekeeper::janitor=debug` has the least level of the events of some targets.
It may also ask for a span that events are in and for a field that they have, as in
`gatekeeper[request\x7bpath=/health\x7d]=warn`.

The blanks around a directive do not count as characters of it, but the places of its parts are
applied to the whole text. So behind blanks all parts are shifted, and a part may begin or end
within a character, which stops the program.

## Main definitions

* `Threshold` — the least level of the events that are told, or none of them
* `Directive` — a threshold and the events that it is for
* `Directive.read` — the directive of a text
* `Directive.isFor` — whether an event outside of all spans is meant
-/

namespace Floodgate

/-- The least level that is told; `off` tells nothing. -/
inductive Threshold where
  | off
  | least (level : Level)
  deriving DecidableEq, Repr

namespace Threshold

/-- The threshold of a number: nothing at `0`, everything at `5`. -/
def ofNumber? : Int → Option Threshold
  | 0 => some off
  | 1 => some (least .error)
  | 2 => some (least .warn)
  | 3 => some (least .info)
  | 4 => some (least .debug)
  | 5 => some (least .trace)
  | _ => none

/-- The threshold of a name in any case. -/
def ofName? (name : List Char) : Option Threshold :=
  match String.ofList (name.map Char.toLower) with
  | "off" => some off
  | "error" => some (least .error)
  | "warn" => some (least .warn)
  | "info" => some (least .info)
  | "debug" => some (least .debug)
  | "trace" => some (least .trace)
  | _ => none

/-- The threshold of a number or a name. -/
def read? (cs : List Char) : Option Threshold :=
  match Integer.read cs with
  | .ok n => if cs.head? = some '-' then none else ofNumber? n
  | .error _ => ofName? cs

/-- Events of this level are told. -/
def tells (t : Threshold) (level : Level) : Bool :=
  match t with
  | off => false
  | least l => l.weight ≤ level.weight

end Threshold

/-- The field that a directive asks for. -/
structure FieldFilter where
  name : List Char
  /-- Some value is asked for, not just the field. -/
  valued : Bool
  deriving DecidableEq, Repr

/-- Which events of a target are told. -/
structure Directive where
  /-- What the target begins with; `none` is any target. -/
  target : Option (List Char)
  /-- Only events within certain spans are meant. -/
  withinSpan : Bool
  field : Option FieldFilter
  threshold : Threshold
  deriving DecidableEq, Repr

/-- What is wrong with a directive. -/
inductive DirectiveError where
  | malformed
  | level
  | pattern (e : PatternError)
  /-- A part begins or ends within a character. -/
  | torn
  deriving DecidableEq, Repr

/-- What is said of a directive. -/
def DirectiveError.message : DirectiveError → String
  | malformed => "invalid filter directive"
  | level => "error parsing level filter: expected one of \"off\", \"error\", " ++
      "\"warn\", \"info\", \"debug\", \"trace\", or a number 0-5"
  | pattern e => "invalid field filter: " ++ e.message
  | torn => "byte index is not a char boundary"

/-- The field of a text: a name, and behind an equals sign a number or a pattern. -/
def FieldFilter.read (cs : List Char) : Except DirectiveError FieldFilter :=
  match splitOn '=' cs with
  | name :: value :: _ =>
    match Binary64.read value, Pattern.check value with
    | .error _, .error e => .error (.pattern e)
    | _, _ => .ok ⟨name, true⟩
  | _ => .ok ⟨cs, false⟩

namespace Directive

/-! ### Reading -/

/-- Where a reader is within a directive, with the place where a part begins. -/
inductive Place where
  | start
  /-- In the first part, a target or a threshold. -/
  | head
  | span (start : Nat)
  | field (start : Nat)
  | behindField
  | behindSpan
  | threshold (start : Nat)

/-- What has been read of a directive. -/
structure Draft where
  target : Option (List Char) := none
  withinSpan : Bool := false
  field : Option FieldFilter := none
  place : Place := .start

/-- A character that a directive begins with, unless it has no target. -/
def isTargetStart (c : Char) : Bool := isAlphanumeric c || c == '-' || c == ':' || c == '_'

/-- The part of a text between two places. -/
def part (text : List Char) (start stop : Nat) : Except DirectiveError (List Char) :=
  match between? start stop text with
  | some cs => .ok cs
  | none => .error .torn

/-- See the character at a place of the text. -/
def Draft.see (text : List Char) (d : Draft) (i : Nat) (c : Char) : Except DirectiveError Draft :=
  match d.place with
  | .start =>
    if c = '[' then .ok { d with place := .span (i + 1) }
    else if isTargetStart c then .ok { d with place := .head }
    else .error .malformed
  | .head =>
    if c = '=' then do .ok { d with target := some (← part text 0 i), place := .threshold (i + 1) }
    else if c = '[' then do .ok { d with target := some (← part text 0 i), place := .span (i + 1) }
    else .ok d
  | .span start =>
    if c = ']' then do
      let _ ← part text start i
      .ok { d with withinSpan := true, place := .behindSpan }
    else if c = '\x7b' then do
      let name ← part text start i
      .ok { d with withinSpan := !name.isEmpty, place := .field (i + 1) }
    else .ok d
  | .field start =>
    if c = '\x7d' then do
      match ← part text start i with
      | [] => .error .malformed
      | cs => .ok { d with field := some (← FieldFilter.read cs), place := .behindField }
    else .ok d
  | .behindField => if c = ']' then .ok { d with place := .behindSpan } else .error .malformed
  | .behindSpan =>
    if c = '=' then .ok { d with place := .threshold (i + 1) } else .error .malformed
  | .threshold _ => .ok d

/-- See the characters from a place of the text on. -/
def Draft.seeAll (text : List Char) (d : Draft) (i : Nat) :
    List Char → Except DirectiveError Draft
  | [] => .ok d
  | c :: cs => do (← d.see text i c).seeAll text (i + c.utf8Size) cs

/-- The directive of a draft with a threshold. -/
def Draft.withThreshold (d : Draft) (t : Threshold) : Directive :=
  ⟨d.target, d.withinSpan, d.field, t⟩

/-- The whole directive. One without a threshold tells everything. -/
def Draft.finish (text : List Char) (d : Draft) : Except DirectiveError Directive :=
  match d.place with
  | .head =>
    match Threshold.read? text with
    | some t => .ok (d.withThreshold t)
    | none => .ok { d.withThreshold (.least .trace) with target := some text }
  | .behindSpan => .ok (d.withThreshold (.least .trace))
  | .threshold start =>
    match cutAtByte? start text with
    | none => .error .torn
    | some (_, []) => .ok (d.withThreshold (.least .trace))
    | some (_, cs) =>
      match Threshold.read? cs with
      | some t => .ok (d.withThreshold t)
      | none => .error .level
  | _ => .error .malformed

/-- The directive of a text. -/
def read (text : List Char) : Except DirectiveError Directive := do
  (← ({} : Draft).seeAll text 0 (trimBlanks text)).finish text

/-! ### Events -/

/-- The event is meant, if it is outside of all spans. -/
def isFor (d : Directive) (e : Event) : Bool :=
  let hasField := match d.field with
    | none => true
    | some f => !f.valued && e.fieldNames.contains (String.ofList f.name)
  !d.withinSpan && hasField && (d.target.getD []).isPrefixOf e.target.toList

/-- How much a directive says of its events: the bytes of its target, if it has one, then the
name of its field, if it asks for one. -/
def detail (d : Directive) : Nat × List (List Char) :=
  (match d.target with
    | none => 0
    | some t => (String.ofList t).utf8ByteSize + 1,
    d.field.toList.map (·.name))

/-- One directive says at least as much of its events as another. -/
def saysAsMuchAs (d d' : Directive) : Bool :=
  decide (d'.detail.1 < d.detail.1) ||
    (d.detail.1 == d'.detail.1 && !decide (d.detail.2 < d'.detail.2))

/-- The texts of a list of directives with commas between them. -/
def parts (text : String) : List (List Char) :=
  (splitOn ',' text.toList).filter (!·.isEmpty)

example : (read "a=info".toList).toOption = some ⟨some ['a'], false, none, .least .info⟩ := by
  decide +kernel
example : (read " ab=3".toList).toOption = none := by decide +kernel
example : (read " info".toList).toOption =
    some ⟨some " info".toList, false, none, .least .trace⟩ := by decide +kernel
example : (read "a[s\x7bf=1\x7d]".toList).toOption =
    some ⟨some ['a'], true, some ⟨['f'], true⟩, .least .trace⟩ := by decide +kernel
example : (match read " é[x]".toList with | .error e => e == .torn | _ => false) = true := by
  decide +kernel

end Directive

end Floodgate
