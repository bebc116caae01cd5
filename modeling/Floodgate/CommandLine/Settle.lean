import Floodgate.Body.Status
import Floodgate.CommandLine.Scan
import Floodgate.Settings
import Floodgate.Text.Plain

/-!
# Settling the options

The value of each option comes from the command line, else from the environment, else from its
default. A text that is overridden does not matter.

## Main definitions

* `textOf`, `valueOf` — the text that counts for an option, and the value that it is read as
* `settle` — the settings of what is given
* `parse` — the settings of arguments and environment
* `Stop.message` — what is said when the program does not start
-/

namespace Floodgate.CommandLine

/-- The text that counts for an option. -/
def textOf (given : List (Opt × String)) (env : Environment) (o : Opt) : String :=
  match given.lookup o with
  | some text => text
  | none => (env.lookup o.envName).getD o.defaultText

/-- The value that is read off a text of the option. A switch's empty text is none at all. -/
def valueOf {α : Type} (o : Opt) (text : String) (read : String → Except ValueError α) :
    Except Stop α :=
  match read text with
  | .ok v => .ok v
  | .error e =>
    if o.isSwitch && text.isEmpty then .error (.missingValue o) else .error (.badValue o text e)

/-- The settings of the options that are given, in their order the first text that is no value. -/
def settle (given : List (Opt × String)) (env : Environment) : Except Stop Settings := do
  let text := textOf given env
  .ok {
    bindAddress := ← valueOf .bindAddr (text .bindAddr) readSocket
    ipRate := ← valueOf .rateLimitIp (text .rateLimitIp) readRate
    ipBurst := ← valueOf .rateLimitIpBurst (text .rateLimitIpBurst) readCount
    globalRate := ← valueOf .rateLimitGlobal (text .rateLimitGlobal) readRate
    globalBurst := ← valueOf .rateLimitGlobalBurst (text .rateLimitGlobalBurst) readCount
    sweepInterval := ← valueOf .sweepInterval (text .sweepInterval) readSpan
    logLevel := text .logLevel
    logJson := ← valueOf .logJson (text .logJson) readSwitch
    deployment := text .appEnv
    requestTimeout := ← valueOf .requestTimeout (text .requestTimeout) readSpan
    shutdownGrace := ← valueOf .shutdownGrace (text .shutdownGrace) readSpan }

/-- The settings of arguments and environment. -/
def parse (arguments : List String) (env : Environment) : Except Stop Settings := do
  settle (← scan arguments) env

/-- The name that a program is called by: the last part of its path, if that is a name. -/
def programName (path : Option String) : String :=
  let parts := (path.getD "").splitOn "/" |>.filter (fun p => p ≠ "" ∧ p ≠ ".")
  match parts.getLast? with
  | some ".." | none => "gatekeeper"
  | some name => name

/-- What is said when the program does not start: the runs that it is set in. What was written on
the command line is set apart from what is said of it. -/
def Stop.runs (program : String) (env : Environment) : Stop → List String
  | help => helpPage program env
  | version => ["gatekeeper " ++ Floodgate.version ++ "\n"]
  | unknownArgument argument => ["error: unexpected argument '", argument, "' found"]
  | missingValue o =>
    ["error: a value is required for '", o.label, "' but none was supplied"]
  | repeated o => ["error: the argument '", o.label, "' cannot be used multiple times"]
  | needlessValue value name =>
    ["error: unexpected value '", value, "' for '", name, "' found; no more were expected"]
  | badValue o value (.unreadable reason) =>
    ["error: invalid value '", value, "' for '", o.label, "': " ++ reason]
  | badValue o value .notSwitched => ["error: invalid value '", value, "' for '", o.label, "'"]
  | badValue _ _ (.crashed message) => [message]

/-- What is said when the program does not start, as plain text. -/
def Stop.message (program : String) (env : Environment) (stop : Stop) : String :=
  String.join ((stop.runs program env).map fun run => String.ofList (plain run.toList))

end Floodgate.CommandLine
