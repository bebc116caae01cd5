import Floodgate.Log.Directive

/-!
# Log filters

A filter is a list of directives. Of the directives for an event the one counts that says most of
the events it is for, and of two that say as much the later.

## Main definitions

* `LogFilter.read`, `LogFilter.readLossy` — the directives of a text
* `LogFilter.enables` — whether an event is told
-/

namespace Floodgate

/-- A filter of events. -/
abbrev LogFilter := List Directive

namespace LogFilter

/-- The filter of a list of directives. Without any only errors are told. -/
def ofDirectives (ds : List Directive) : LogFilter :=
  if ds.isEmpty then [⟨none, false, none, .least .error⟩] else ds

/-- The filter of a text, or what is wrong with the first directive that cannot be read. -/
def read (text : String) : Except DirectiveError LogFilter :=
  ((Directive.parts text).mapM Directive.read).map ofDirectives

/-- The directives of texts that can be read, if reading does not stop the program, and what is
said of the others. -/
def readParts : List (List Char) → Option (List Directive) × List String
  | [] => (some [], [])
  | cs :: rest =>
    match Directive.read cs with
    | .error .torn => (none, [])
    | .error e =>
      let (ds, complaints) := readParts rest
      (ds, ("ignoring `" ++ String.ofList cs ++ "`: " ++ e.message) :: complaints)
    | .ok d =>
      let (ds, complaints) := readParts rest
      (ds.map (d :: ·), complaints)

/-- The filter of the directives of a text that can be read, if reading does not stop the program,
and what is said of the others. -/
def readLossy (text : String) : Option LogFilter × List String :=
  let (ds, complaints) := readParts (Directive.parts text)
  (ds.map ofDirectives, complaints)

/-- The directive that counts for an event. -/
def directiveFor (f : LogFilter) (e : Event) : Option Directive :=
  f.foldl (fun best d =>
    if d.isFor e && best.all d.saysAsMuchAs then some d else best) none

/-- The event is told. -/
def enables (f : LogFilter) (e : Event) : Bool :=
  match f.directiveFor e with
  | some d => d.threshold.tells e.level
  | none => false

end LogFilter

end Floodgate
