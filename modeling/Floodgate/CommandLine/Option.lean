import Floodgate.Environment.Basic

/-!
# Options of the command line

Each option has a name on the command line, a variable in the environment and, but for the one
switch, a value with a default.

## Main definitions

* `Opt` — the options
* `Opt.name`, `Opt.envName`, `Opt.defaultText` — where the value of an option comes from
* `Opt.label` — how messages name an option
* `helpPage` — the page that tells of all options, as the runs that it is set in
-/

namespace Floodgate.CommandLine

/-- An option. -/
inductive Opt where
  | bindAddr | rateLimitIp | rateLimitIpBurst | rateLimitGlobal | rateLimitGlobalBurst
  | sweepInterval | logLevel | logJson | appEnv | requestTimeout | shutdownGrace
  deriving DecidableEq, Repr

namespace Opt

/-- All options, in the order in which they are told and settled. -/
def all : List Opt :=
  [bindAddr, rateLimitIp, rateLimitIpBurst, rateLimitGlobal, rateLimitGlobalBurst, sweepInterval,
    logLevel, logJson, appEnv, requestTimeout, shutdownGrace]

/-- The name behind two dashes. -/
def name : Opt → String
  | bindAddr => "bind-addr"
  | rateLimitIp => "rate-limit-ip"
  | rateLimitIpBurst => "rate-limit-ip-burst"
  | rateLimitGlobal => "rate-limit-global"
  | rateLimitGlobalBurst => "rate-limit-global-burst"
  | sweepInterval => "sweep-interval"
  | logLevel => "log-level"
  | logJson => "log-json"
  | appEnv => "app-env"
  | requestTimeout => "request-timeout"
  | shutdownGrace => "shutdown-grace"

/-- The option of a name. -/
def ofName? (name : String) : Option Opt := all.find? (·.name = name)

/-- The name in capitals, words joined by underscores. -/
def shoutedName (o : Opt) : String :=
  String.ofList (o.name.toList.map fun c => if c = '-' then '_' else c.toUpper)

/-- The variable of the environment. -/
def envName : Opt → String
  | sweepInterval => "RATE_LIMIT_SWEEP_INTERVAL"
  | o => o.shoutedName

/-- The option is a switch, without a value of its own. -/
def isSwitch : Opt → Bool
  | logJson => true
  | _ => false

/-- The text of the value unless another is given. A switch is off. -/
def defaultText : Opt → String
  | bindAddr => "0.0.0.0:8000"
  | rateLimitIp => "10"
  | rateLimitIpBurst => "20"
  | rateLimitGlobal => "100"
  | rateLimitGlobalBurst => "200"
  | sweepInterval => "10m"
  | logLevel => "info"
  | logJson => "false"
  | appEnv => "development"
  | requestTimeout => "15s"
  | shutdownGrace => "10s"

/-- What the option is for. -/
def about : Opt → String
  | bindAddr => "Server bind address"
  | rateLimitIp => "Tokens per second per client IP"
  | rateLimitIpBurst => "Burst capacity per client IP"
  | rateLimitGlobal => "Tokens per second across all clients"
  | rateLimitGlobalBurst => "Burst capacity across all clients"
  | sweepInterval => "How often idle client buckets are reclaimed (e.g. \"10m\", \"30s\")"
  | logLevel => "Log level used when RUST_LOG is not set"
  | logJson => "Emit logs as JSON lines"
  | appEnv => "Deployment environment; \"production\" forces JSON logs"
  | requestTimeout => "Upper bound on handling a single request"
  | shutdownGrace => "How long in-flight connections may drain after a shutdown signal"

/-- How messages name the option. -/
def label (o : Opt) : String :=
  if o.isSwitch then "--" ++ o.name else "--" ++ o.name ++ " <" ++ o.shoutedName ++ ">"

theorem ofName?_name (o : Opt) : ofName? o.name = some o := by
  cases o <;> decide

end Opt

/-! ### The help page -/

/-- An entry of the help page. -/
structure HelpEntry where
  /-- What stands before the names, so that the long name has its column. -/
  margin : String
  /-- The names, and what parts them. -/
  names : List String
  /-- All else that is told. -/
  description : String

/-- What stands before each line of a description. -/
def indent : String := "          "

/-- The entry of an option. A variable's value of several lines is indented throughout. -/
def Opt.helpEntry (env : Environment) (o : Opt) : HelpEntry :=
  let value := ((env.lookup o.envName).getD "").toList
  let value := value.flatMap fun c => if c = '\n' then c :: indent.toList else [c]
  let current := " [env: " ++ o.envName ++ "=" ++ String.ofList value ++ "]"
  let fallback := if o.isSwitch then "" else " [default: " ++ o.defaultText ++ "]"
  let placeholder := if o.isSwitch then "" else " <" ++ o.shoutedName ++ ">"
  ⟨"      ", ["--" ++ o.name],
    placeholder ++ "\n" ++ indent ++ o.about ++ current ++ fallback ++ "\n"⟩

/-- The entries of the help page. -/
def helpEntries (env : Environment) : List HelpEntry :=
  Opt.all.map (Opt.helpEntry env) ++
    [⟨"  ", ["-h", ", ", "--help"], "\n" ++ indent ++ "Print help\n"⟩,
      ⟨"  ", ["-V", ", ", "--version"], "\n" ++ indent ++ "Print version\n"⟩]

/-- The runs of entries behind the text before them: names stand out, all else does not. -/
def entryRuns (before : String) : List HelpEntry → List String
  | [] => [before]
  | e :: es => (before ++ e.margin) :: e.names ++ entryRuns e.description es

/-- The page that tells of all options and of the variables as they are set. -/
def helpPage (program : String) (env : Environment) : List String :=
  ["Rate limiting edge for the library API gateway\n\nUsage: ", program] ++
    entryRuns " [OPTIONS]\n\nOptions:\n" (helpEntries env)

end Floodgate.CommandLine
