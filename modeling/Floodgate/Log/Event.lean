import Floodgate.Binary64.Basic

/-!
# Log events

What the gate tells of its work: events with a level, the part of the gate they come from, a
message and named values. How an event is written as a line is a matter of its own.
-/

namespace Floodgate

/-- How much an event matters, least first. -/
inductive Level where
  | trace | debug | info | warn | error
  deriving DecidableEq, Repr

namespace Level

/-- The name of a level as events carry it. -/
def name : Level → String
  | trace => "TRACE"
  | debug => "DEBUG"
  | info => "INFO"
  | warn => "WARN"
  | error => "ERROR"

/-- The place of a level in order of weight. -/
def weight : Level → Nat
  | trace => 0
  | debug => 1
  | info => 2
  | warn => 3
  | error => 4

end Level

/-- A value that an event carries. -/
inductive LogValue where
  /-- A text that is quoted when it is written on a line. -/
  | text (s : String)
  /-- A text that is written as it stands. -/
  | shown (s : String)
  | count (n : Nat)
  | real (x : Binary64)
  deriving DecidableEq

/-- One event. -/
structure Event where
  level : Level
  target : String
  message : String
  fields : List (String × LogValue)
  deriving DecidableEq

/-- The names of an event's fields. The message is one of them. -/
def Event.fieldNames (e : Event) : List String := "message" :: e.fields.map (·.1)

end Floodgate
