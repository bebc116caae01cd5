import Floodgate.Binary64.Decimal
import Floodgate.CommandLine.Option
import Floodgate.Net.Socket
import Floodgate.Text.Integer
import Floodgate.Time.SpanText

/-!
# Values of options

## Main definitions

* `ValueError` — why a text is no value of an option
* `readSocket`, `readRate`, `readCount`, `readSpan`, `readSwitch` — the values of each kind
* `Opt.check` — whether a text is a value of an option
-/

namespace Floodgate.CommandLine

/-- Why a text is no value. -/
inductive ValueError where
  /-- The text cannot be read, for the reason given. -/
  | unreadable (reason : String)
  /-- A switch is neither on nor off. -/
  | notSwitched
  /-- Reading the text stopped the program. -/
  | crashed (message : String)
  deriving DecidableEq, Repr

/-- A socket address. -/
def readSocket (text : String) : Except ValueError Socket :=
  match Socket.read text.toList with
  | some s => .ok s
  | none => .error (.unreadable "invalid socket address syntax")

/-- A binary64 number. -/
def readRate (text : String) : Except ValueError Binary64 :=
  match Binary64.read text.toList with
  | .ok x => .ok x
  | .error e => .error (.unreadable e.message)

/-- A whole number of 32 bits. -/
def readCount (text : String) : Except ValueError UInt32 :=
  match Integer.read text.toList with
  | .error e => .error (.unreadable e.message)
  | .ok n =>
    if 0 ≤ n ∧ n < 2 ^ 32 then .ok (UInt32.ofNat n.toNat)
    else .error (.unreadable (Integer.text n ++ " is not in 0..=4294967295"))

/-- A span of time. -/
def readSpan (text : String) : Except ValueError Span :=
  match Span.read text.toList with
  | .ok d => .ok d
  | .error e =>
    if e.isCrash then .error (.crashed e.message) else .error (.unreadable e.message)

/-- The state of a switch. -/
def readSwitch (text : String) : Except ValueError Bool :=
  match text with
  | "true" => .ok true
  | "false" => .ok false
  | _ => .error .notSwitched

/-- A text is a value of the option. -/
def Opt.check (o : Opt) (text : String) : Except ValueError Unit :=
  match o with
  | bindAddr => (readSocket text).map fun _ => ()
  | rateLimitIp | rateLimitGlobal => (readRate text).map fun _ => ()
  | rateLimitIpBurst | rateLimitGlobalBurst => (readCount text).map fun _ => ()
  | sweepInterval | requestTimeout | shutdownGrace => (readSpan text).map fun _ => ()
  | logJson => (readSwitch text).map fun _ => ()
  | logLevel | appEnv => .ok ()

end Floodgate.CommandLine
