import Floodgate.Json.Value
import Floodgate.Log.Event
import Floodgate.Text.Quoted

/-!
# Log lines

An event is written as a line of text, its values behind the message, or as a JSON object. The time
of day that stands in front of a line, and in an object as its member `timestamp`, is left out.
-/

namespace Floodgate

/-- Numbers in lines of text are positional from `1e-4` up to below `1e16`. -/
def LogValue.numberLayout : Binary64.Layout := ⟨some (-4), some 15, false, true⟩

/-- A value in a line of text. -/
def LogValue.line : LogValue → String
  | .text s => quoted s
  | .shown s => s
  | .count n => Decimal.text n
  | .real .nan => "NaN"
  | .real (.infinite negative) => if negative then "-inf" else "inf"
  | .real x => String.ofList ((Binary64.write numberLayout x).getD [])

/-- A value in a JSON object. -/
def LogValue.json : LogValue → Json
  | .text s | .shown s => .text s
  | .count n => .natural n
  | .real x => .number x

namespace Event

/-- The event as a line of text. -/
def line (e : Event) : String :=
  e.level.name ++ " " ++ e.target ++ ": " ++ e.message ++
    String.join (e.fields.map fun (name, value) => " " ++ name ++ "=" ++ value.line)

/-- The event as a JSON object. -/
def json (e : Event) : Json :=
  .object [("level", .text e.level.name),
    ("fields", .object (("message", .text e.message) ::
      e.fields.map fun (name, value) => (name, value.json))),
    ("target", .text e.target)]

end Event

end Floodgate
