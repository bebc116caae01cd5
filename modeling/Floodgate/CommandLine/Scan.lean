import Floodgate.CommandLine.Value

/-!
# Scanning the command line

Arguments are taken from left to right. An option's value stands behind an equals sign or is the
next argument; the value of the next argument is judged when the argument after it is an option
again, or at the end.

## Main definitions

* `Stop` — why the program does not start
* `Scan` — what has been seen of the arguments
* `scan` — the options that are given, with their values as texts
-/

namespace Floodgate.CommandLine

/-- Why the program does not start. -/
inductive Stop where
  /-- The help page is asked for. -/
  | help
  /-- The version is asked for. -/
  | version
  | unknownArgument (argument : String)
  | missingValue (o : Opt)
  | repeated (o : Opt)
  /-- Something that takes no value was given one. -/
  | needlessValue (value name : String)
  | badValue (o : Opt) (value : String) (e : ValueError)
  deriving DecidableEq, Repr

/-- What has been seen of the arguments. -/
structure Scan where
  /-- The options that are given, in order. -/
  given : List (Opt × String) := []
  /-- The latest option and its value, if the option is not settled yet. -/
  pending : Option (Opt × Option String) := none
  /-- Two dashes have ended the options. -/
  ended : Bool := false

namespace Scan

/-- Take an option with its value. -/
def take (s : Scan) (o : Opt) (value : String) : Except Stop Scan :=
  if s.given.any (·.1 = o) then .error (.repeated o)
  else match o.check value with
    | .ok () => .ok { s with given := s.given ++ [(o, value)] }
    | .error e => .error (.badValue o value e)

/-- Settle the latest option. -/
def settle (s : Scan) : Except Stop Scan :=
  match s.pending with
  | none => .ok s
  | some (o, none) => .error (.missingValue o)
  | some (o, some value) => { s with pending := none }.take o value

/-- See a long argument: a name, and the value behind its equals sign if there is one. -/
def long (s : Scan) (name : String) (value : Option String) : Except Stop Scan :=
  match Opt.ofName? name with
  | some o =>
    -- The latest option is settled first, so its fault is told before any of this one's.
    if o.isSwitch then
      match value with
      | some value => .error (.needlessValue value ("--" ++ name))
      | none => do (← s.settle).take o "true"
    else
      match value with
      | some value => do (← s.settle).take o value
      | none => do .ok { ← s.settle with pending := some (o, none) }
  | none =>
    if name = "help" ∨ name = "version" then
      match value with
      | some value => .error (.needlessValue value ("--" ++ name))
      | none => do
        let _ ← s.settle
        .error (if name = "help" then .help else .version)
    else .error (.unknownArgument ("--" ++ name))

/-- See a short argument by its first letter; no letter lets the scan go on. -/
def short (s : Scan) (letter : Char) : Except Stop Scan :=
  if letter = 'h' ∨ letter = 'V' then do
    let _ ← s.settle
    .error (if letter = 'h' then .help else .version)
  else .error (.unknownArgument (String.ofList ['-', letter]))

/-- See an argument that is no option: the value that is waited for, or nothing known. -/
def plain (s : Scan) (argument : String) : Except Stop Scan :=
  match s.pending with
  -- The value is kept unread until it is clear that the option has no more of them.
  | some (o, none) => .ok { s with pending := some (o, some argument) }
  | _ => .error (.unknownArgument argument)

/-- See one argument. -/
def see (s : Scan) (argument : String) : Except Stop Scan :=
  if s.ended then .error (.unknownArgument argument)
  else match argument.toList with
    | ['-', '-'] => .ok { s with ended := true }
    | '-' :: '-' :: cs =>
      let name := String.ofList (cs.takeWhile (· ≠ '='))
      match cs.dropWhile (· ≠ '=') with
      | [] => s.long name none
      | _ :: value => s.long name (some (String.ofList value))
    | '-' :: letter :: _ => s.short letter
    | _ => s.plain argument

end Scan

/-- The options that are given, with their values. -/
def scan (arguments : List String) : Except Stop (List (Opt × String)) := do
  let s ← arguments.foldlM Scan.see {}
  .ok (← s.settle).given

end Floodgate.CommandLine
