/-!
# Faults of JSON texts

Why a text cannot be read as a value of the wanted shape. A text is read from front to back, and
the first fault met is the one that is told.

## Main definitions

* `Json.Fault` — the kinds of fault
* `Json.Reader` — a function that reads something off the front of a text
-/

namespace Floodgate.Json

/-- Why a text cannot be read. -/
inductive Fault where
  /-- The text is no JSON. -/
  | malformed
  /-- The text ends too early. -/
  | truncated
  /-- The text is JSON, but not of the wanted shape. -/
  | mismatch (message : String)
  /-- Reading a value stopped the program. -/
  | crashed (message : String)
  deriving DecidableEq, Repr

/-- Reads a value off the front of a text and gives the rest of the text. -/
abbrev Reader (α : Type) := List Char → Except Fault (α × List Char)

/-- A character that may stand between the parts of a JSON text. -/
def isBlank (c : Char) : Bool := c == ' ' || c == '\t' || c == '\n' || c == '\r'

/-- The text without the blanks it begins with. -/
def skipBlanks (cs : List Char) : List Char := cs.dropWhile isBlank

/-- What follows a mark, blanks before it skipped. -/
def skipMark (mark : Char) (cs : List Char) : Except Fault (List Char) :=
  match skipBlanks cs with
  | [] => .error .truncated
  | c :: rest => if c = mark then .ok rest else .error .malformed

/-- What follows a word that stands at the front of a text. -/
def skipWord : List Char → List Char → Except Fault (List Char)
  | [], cs => .ok cs
  | _ :: _, [] => .error .truncated
  | w :: ws, c :: cs => if c = w then skipWord ws cs else .error .malformed

end Floodgate.Json
