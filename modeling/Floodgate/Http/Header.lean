/-!
# Header fields

Names are tokens and are compared in lower case. Values are any characters but controls, of which
only the tab is allowed; a value counts as readable when it is plain ASCII.

## Main definitions

* `Http.Field` — a header field
* `Http.Field.make` — the field of a name and a value, or which of them cannot be used
* `Http.Fields.first?` — the value of the first field of a name
* `Http.readable?` — a value, if it is readable
-/

namespace Floodgate.Http

/-- A character of a token. -/
def isTokenChar (c : Char) : Bool :=
  c.isAlphanum || "!#$%&'*+-.^_`|~".toList.contains c

/-- One or more token characters. -/
def isToken (s : String) : Bool := !s.toList.isEmpty && s.toList.all isTokenChar

/-- A character that a value may hold. -/
def isValueChar (c : Char) : Bool := c == '\t' || (0x20 ≤ c.toNat && c.toNat != 0x7f)

/-- A character of a readable value. -/
def isReadableChar (c : Char) : Bool := c == '\t' || (0x20 ≤ c.toNat && c.toNat < 0x7f)

/-- A header field, its name in lower case. -/
structure Field where
  name : String
  value : String
  deriving DecidableEq

/-- Which part of a header field cannot be used. -/
inductive FieldError where
  | name | value
  deriving DecidableEq, Repr

/-- The field of a name and a value. -/
def Field.make (name value : String) : Except FieldError Field :=
  if !isToken name then .error .name
  else if !value.toList.all isValueChar then .error .value
  else .ok ⟨String.ofList (name.toList.map Char.toLower), value⟩

/-- Header fields in the order in which they came. -/
abbrev Fields := List Field

/-- The value of the first field of a name. -/
def Fields.first? (fields : Fields) (name : String) : Option String :=
  (fields.find? (·.name = name)).map Field.value

/-- The value itself when it is readable. -/
def readable? (value : String) : Option String :=
  if value.toList.all isReadableChar then some value else none

/-- The first value of a name, when it is readable. -/
def Fields.readable? (fields : Fields) (name : String) : Option String :=
  (fields.first? name).bind Http.readable?

end Floodgate.Http
