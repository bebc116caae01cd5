import Floodgate.CommandLine.Settle
import Floodgate.Environment.File
import Floodgate.Proofs.Outcome
import Mathlib.Data.List.Perm.Basic
import Mathlib.Data.List.Nodup

/-!
# Sources of settings

An option has up to four sources: a flag, the environment, the environment file and its default.
They are tried in this order, option by option: the text of the first source that has one is the
value's text, and no text behind it is ever read. So neither the order of the flags nor the texts
that are overridden bear on the settings.

## Main definitions

* `Opt.Value`, `Opt.read`, `Opt.field` — the type of an option's value, how it is read and where
  the settings keep it
* `Flag` — an option as it is given in one argument
* `Environment.addAll`, `Environment.assignments` — variables added one by one, and those of a file
* `chosenText` — the text of the first source that has one, short of the default

## Main results

* `Environment.load_eq_addAll` — a file adds the variables that its lines are read as
* `settle_eq_ok_iff` — settled settings keep, for each option, the value of the text that counts
* `scan_flags_eq_ok_iff` — flags are seen when each one's text is a value
* `parse_resolves` — settings option by option from their sources
-/

namespace Floodgate

namespace Environment

variable {env : Environment} {loaded : List (String × String)} {name text : String}

/-- The environment with variables added one by one. -/
def addAll (env : Environment) (loaded : List (String × String)) : Environment :=
  loaded.foldl (fun env v => env.add v.1 v.2) env

theorem lookup_addAll :
    (env.addAll loaded).lookup name = (env.lookup name).or (loaded.lookup name) := by
  induction loaded generalizing env with
  | nil => simp [addAll]
  | cons v loaded ih =>
    obtain ⟨n, value⟩ := v
    have step : env.addAll ((n, value) :: loaded) = (env.add n value).addAll loaded := rfl
    rw [step, ih, lookup_add, Option.or_assoc, List.lookup_cons]
    by_cases h : name = n
    · simp [h]
    · simp [h, beq_eq_false_iff_ne.2 h]

/-- The variables of lines, up to the first line that cannot be read. Those of earlier lines are
set already when a line is read. -/
def assignmentsOfLines (env : Environment) : List (List Char) → List (String × String)
  | [] => []
  | line :: lines =>
    match readLine env line with
    | none => []
    | some none => assignmentsOfLines env lines
    | some (some (name, value)) => (name, value) :: assignmentsOfLines (env.add name value) lines

/-- The variables of a file, in their order and with all repetitions. -/
def assignments (env : Environment) (text : String) : List (String × String) :=
  assignmentsOfLines env (splitOn '\n' text.toList)

theorem loadLines_eq_addAll (env : Environment) (lines : List (List Char)) :
    env.loadLines lines = env.addAll (env.assignmentsOfLines lines) := by
  fun_induction assignmentsOfLines env lines with
  | case1 => rfl
  | case2 _ _ _ h => simp only [loadLines, h]; rfl
  | case3 _ _ _ h ih => simpa only [loadLines, h] using ih
  | case4 _ _ _ _ _ h ih => simp only [loadLines, h]; exact ih

theorem load_eq_addAll (env : Environment) (text : String) :
    env.load text = env.addAll (env.assignments text) := loadLines_eq_addAll _ _

end Environment

namespace CommandLine

variable {o : Opt} {s : Settings}

/-! ### Values of options -/

/-- The type of an option's value. -/
def Opt.Value : Opt → Type
  | bindAddr => Socket
  | rateLimitIp | rateLimitGlobal => Binary64
  | rateLimitIpBurst | rateLimitGlobalBurst => UInt32
  | sweepInterval | requestTimeout | shutdownGrace => Span
  | logLevel | appEnv => String
  | logJson => Bool

/-- The value that a text stands for. -/
def Opt.read : (o : Opt) → String → Except ValueError o.Value
  | bindAddr => readSocket
  | rateLimitIp | rateLimitGlobal => readRate
  | rateLimitIpBurst | rateLimitGlobalBurst => readCount
  | sweepInterval | requestTimeout | shutdownGrace => readSpan
  | logLevel | appEnv => .ok
  | logJson => readSwitch

/-- The value in the settings. -/
def Opt.field : (o : Opt) → Settings → o.Value
  | bindAddr => Settings.bindAddress
  | rateLimitIp => Settings.ipRate
  | rateLimitIpBurst => Settings.ipBurst
  | rateLimitGlobal => Settings.globalRate
  | rateLimitGlobalBurst => Settings.globalBurst
  | sweepInterval => Settings.sweepInterval
  | logLevel => Settings.logLevel
  | logJson => Settings.logJson
  | appEnv => Settings.deployment
  | requestTimeout => Settings.requestTimeout
  | shutdownGrace => Settings.shutdownGrace

/-- Whether a text is checked is whether it can be read. -/
theorem Opt.check_eq (o : Opt) (text : String) : o.check text = (o.read text).map fun _ => () := by
  cases o <;> rfl

theorem Opt.check_eq_ok_iff {text : String} : o.check text = .ok () ↔ ∃ v, o.read text = .ok v := by
  rw [check_eq]
  cases o.read text <;> simp [Except.map]

/-- Settings keep any values, one for each option. -/
theorem Opt.exists_field_eq (value : (o : Opt) → o.Value) :
    ∃ s : Settings, ∀ o : Opt, o.field s = value o := by
  refine ⟨⟨value .bindAddr, value .rateLimitIp, value .rateLimitIpBurst, value .rateLimitGlobal,
    value .rateLimitGlobalBurst, value .sweepInterval, value .logLevel, value .logJson,
    value .appEnv, value .requestTimeout, value .shutdownGrace⟩, fun o => ?_⟩
  cases o <;> rfl

/-- The texts of the defaults stand for the standard settings. -/
theorem Opt.read_defaultText (o : Opt) : o.read o.defaultText = .ok (o.field .standard) := by
  cases o with
  | bindAddr => show readSocket "0.0.0.0:8000" = .ok Settings.standard.bindAddress; decide +kernel
  | rateLimitIp => show readRate "10" = .ok Settings.standard.ipRate; decide +kernel
  | rateLimitIpBurst => show readCount "20" = .ok Settings.standard.ipBurst; decide +kernel
  | rateLimitGlobal => show readRate "100" = .ok Settings.standard.globalRate; decide +kernel
  | rateLimitGlobalBurst => show readCount "200" = .ok Settings.standard.globalBurst; decide +kernel
  | sweepInterval => show readSpan "10m" = .ok Settings.standard.sweepInterval; decide +kernel
  | requestTimeout => show readSpan "15s" = .ok Settings.standard.requestTimeout; decide +kernel
  | shutdownGrace => show readSpan "10s" = .ok Settings.standard.shutdownGrace; decide +kernel
  | logLevel | logJson | appEnv => rfl

/-! ### Settling -/

theorem valueOf_eq_ok_iff {α : Type} {text : String} {read : String → Except ValueError α} {v : α} :
    valueOf o text read = .ok v ↔ read text = .ok v := by
  unfold valueOf
  cases read text with
  | ok w => simp
  | error e => by_cases h : o.isSwitch && text.isEmpty <;> simp [h]

theorem settle_eq_ok_iff {given : List (Opt × String)} {env : Environment} :
    settle given env = .ok s ↔ ∀ o : Opt, o.read (textOf given env o) = .ok (o.field s) := by
  simp only [settle, bind_eq_ok_iff, valueOf_eq_ok_iff, Except.ok.injEq]
  constructor
  · rintro ⟨_, h1, _, h2, _, h3, _, h4, _, h5, _, h6, _, h7, _, h8, _, h9, rfl⟩ o
    cases o
    all_goals first | assumption | rfl
  · intro h
    exact ⟨_, h .bindAddr, _, h .rateLimitIp, _, h .rateLimitIpBurst, _, h .rateLimitGlobal, _,
      h .rateLimitGlobalBurst, _, h .sweepInterval, _, h .logJson, _, h .requestTimeout, _,
      h .shutdownGrace, by rw [Except.ok.inj (h .logLevel), Except.ok.inj (h .appEnv)]; rfl⟩

/-- Settings depend on the texts that count and on nothing else. -/
theorem settle_congr {given given' : List (Opt × String)} {env env' : Environment}
    (h : ∀ o, textOf given env o = textOf given' env' o) :
    settle given env = settle given' env' := by
  simp only [settle, h]

/-! ### Flags -/

/-- An option as it is given in one argument: the switch by its name, any other option with a
value behind an equals sign. -/
inductive Flag where
  | on
  | valued (o : Opt) (isValued : o.isSwitch = false) (value : String)

namespace Flag

/-- The option that is given. -/
def opt : Flag → Opt
  | on => .logJson
  | valued o _ _ => o

/-- The text of its value. -/
def text : Flag → String
  | on => "true"
  | valued _ _ value => value

/-- The argument that gives it. -/
def argument : Flag → String
  | on => "--log-json"
  | valued o _ value => "--" ++ o.name ++ "=" ++ value

/-- What is kept of it. -/
def given (f : Flag) : Opt × String := (f.opt, f.text)

end Flag

variable {flags flags' : List Flag} {seen seen' : Scan}

theorem Opt.name_of_ofName? {name : String} (known : Opt.ofName? name = some o) :
    o.name = name := by
  simpa using List.find?_some known

theorem Opt.equals_notMem_name (o : Opt) : '=' ∉ o.name.toList := by
  cases o <;> decide

/-- A flag is taken as it is seen, once the latest option is settled. -/
theorem see_argument_eq (ended : seen.ended = false) (f : Flag) :
    seen.see f.argument = (seen.settle >>= fun s => s.take f.opt f.text) := by
  cases f with
  | on =>
    have named : Opt.ofName? "log-json" = some .logJson := Opt.ofName?_name .logJson
    have long : seen.see "--log-json" = seen.long "log-json" none := by simp [Scan.see, ended]
    rw [Flag.argument, long]
    simp [Scan.long, named, Opt.isSwitch, Flag.opt, Flag.text]
  | valued o isValued value =>
    -- The name holds no equals sign, so that the first one parts it from the value.
    have nameChars : ∀ c ∈ o.name.toList, decide (c ≠ '=') = true := fun c hc =>
      decide_eq_true fun h => o.equals_notMem_name (h ▸ hc)
    have front : (o.name.toList ++ '=' :: value.toList).takeWhile (· ≠ '=') = o.name.toList := by
      rw [List.takeWhile_append_of_pos nameChars]; simp
    have back : (o.name.toList ++ '=' :: value.toList).dropWhile (· ≠ '=') =
        '=' :: value.toList := by
      rw [List.dropWhile_append_of_pos nameChars]; simp
    have spelled : ("--" ++ o.name ++ "=" ++ value).toList =
        '-' :: '-' :: (o.name.toList ++ '=' :: value.toList) := by
      simp [String.toList_append]
    have long : seen.see ("--" ++ o.name ++ "=" ++ value) = seen.long o.name (some value) := by
      unfold Scan.see
      rw [spelled, ended]
      cases hn : o.name.toList with
      | nil => exact absurd hn (by cases o <;> decide)
      | cons c cs =>
        rw [hn] at front back
        simp only [Bool.false_eq_true, if_false, List.cons_append] at front back ⊢
        simp only [front, back, ← hn, String.ofList_toList]
    rw [Flag.argument, long]
    simp [Scan.long, Opt.ofName?_name, isValued, Flag.opt, Flag.text]

theorem see_argument (ended : seen.ended = false) (pending : seen.pending = none) (f : Flag) :
    seen.see f.argument = seen.take f.opt f.text := by
  have settled : seen.settle = .ok seen := by simp only [Scan.settle, pending]
  rw [see_argument_eq ended, settled]
  rfl

theorem take_eq_ok_iff {text : String} (fresh : ∀ p ∈ seen.given, p.1 ≠ o) :
    seen.take o text = .ok seen' ↔
      o.check text = .ok () ∧ seen' = { seen with given := seen.given ++ [(o, text)] } := by
  have new : seen.given.any (·.1 = o) = false := by simpa using fresh
  unfold Scan.take
  rw [new, if_neg Bool.false_ne_true]
  cases o.check text with
  | ok _ => simp [eq_comm]
  | error _ => simp

/-- Whatever is taken, the latest option and the end of the options are left alone. -/
theorem take_keeps {text : String} (taken : seen.take o text = .ok seen') :
    seen'.pending = seen.pending ∧ seen'.ended = seen.ended := by
  unfold Scan.take at taken
  split_ifs at taken
  cases checked : o.check text with
  | ok _ =>
    simp only [checked, Except.ok.injEq] at taken
    subst taken
    exact ⟨rfl, rfl⟩
  | error e => simp [checked] at taken

/-- No option waits for its value once the latest one is settled. -/
theorem settle_keeps (settled : seen.settle = .ok seen') :
    seen'.pending = none ∧ seen'.ended = seen.ended := by
  unfold Scan.settle at settled
  cases pending : seen.pending with
  | none =>
    simp only [pending, Except.ok.injEq] at settled
    subst settled
    exact ⟨pending, rfl⟩
  | some p =>
    obtain ⟨o, _ | value⟩ := p
    · simp [pending] at settled
    · simp only [pending] at settled
      exact take_keeps settled

/-- Flags of different options, none of them given already, are all taken when their texts are
values. -/
theorem foldlM_see_eq_ok_iff (ended : seen.ended = false) (pending : seen.pending = none)
    (apart : (flags.map Flag.opt).Nodup) (fresh : ∀ f ∈ flags, ∀ p ∈ seen.given, p.1 ≠ f.opt) :
    (flags.map Flag.argument).foldlM Scan.see seen = .ok seen' ↔
      (∀ f ∈ flags, f.opt.check f.text = .ok ()) ∧
        seen' = { seen with given := seen.given ++ flags.map Flag.given } := by
  induction flags generalizing seen with
  | nil => simp [pure, Except.pure, eq_comm]
  | cons f flags ih =>
    obtain ⟨notAgain, apart⟩ := List.nodup_cons.1 apart
    obtain ⟨new, fresh⟩ := List.forall_mem_cons.1 fresh
    rw [List.map_cons, List.foldlM_cons, bind_eq_ok_iff, see_argument ended pending]
    simp only [take_eq_ok_iff new]
    -- What is taken of the first flag keeps the others fresh, as it is of another option.
    have later : ∀ g ∈ flags, ∀ p ∈ seen.given ++ [f.given], p.1 ≠ g.opt := by
      intro g hg p hp
      rcases List.mem_append.1 hp with hp | hp
      · exact fresh g hg p hp
      · rw [List.mem_singleton.1 hp]
        exact fun h : f.opt = g.opt => notAgain (h ▸ List.mem_map_of_mem hg)
    have rest := @ih { seen with given := seen.given ++ [f.given] } ended pending apart later
    constructor
    · rintro ⟨_, ⟨checked, rfl⟩, h⟩
      obtain ⟨others, rfl⟩ := rest.1 h
      exact ⟨List.forall_mem_cons.2 ⟨checked, others⟩, by simp⟩
    · rintro ⟨checked, rfl⟩
      obtain ⟨checked, others⟩ := List.forall_mem_cons.1 checked
      exact ⟨_, ⟨checked, rfl⟩, rest.2 ⟨others, by simp⟩⟩

/-- The options that are given are those of the last scan, once nothing is left to be settled. -/
theorem scan_eq (arguments : List String) :
    scan arguments = (arguments.foldlM Scan.see {} >>= Scan.settle).map Scan.given := by
  unfold scan
  cases arguments.foldlM Scan.see {} with
  | error stop => rfl
  | ok seen =>
    change (seen.settle >>= fun s => .ok s.given) = seen.settle.map Scan.given
    cases seen.settle <;> rfl

theorem scan_flags_eq_ok_iff {pairs : List (Opt × String)} (apart : (flags.map Flag.opt).Nodup) :
    scan (flags.map Flag.argument) = .ok pairs ↔
      (∀ f ∈ flags, f.opt.check f.text = .ok ()) ∧ pairs = flags.map Flag.given := by
  have fromStart (seen : Scan) := @foldlM_see_eq_ok_iff flags {} seen rfl rfl apart (by simp)
  simp only [scan, bind_eq_ok_iff, fromStart]
  constructor
  · rintro ⟨_, ⟨checked, rfl⟩, _, h, h'⟩
    cases Except.ok.inj h
    exact ⟨checked, (Except.ok.inj h').symm⟩
  · rintro ⟨checked, rfl⟩
    exact ⟨_, ⟨checked, rfl⟩, _, rfl, rfl⟩

/-! ### The text that counts -/

/-- The text of the first source that has one: a flag, the environment, the environment file. -/
def chosenText (flags : List Flag) (env : Environment) (loaded : List (String × String))
    (o : Opt) : Option String :=
  ((flags.map Flag.given).lookup o).or ((env.lookup o.envName).or (loaded.lookup o.envName))

/-- The option has the value of its chosen text, or the standard one where no text is chosen. -/
def Resolves (flags : List Flag) (env : Environment) (loaded : List (String × String))
    (s : Settings) (o : Opt) : Prop :=
  match chosenText flags env loaded o with
  | some text => o.read text = .ok (o.field s)
  | none => o.field s = o.field .standard

instance Opt.decidableEqValue : (o : Opt) → DecidableEq o.Value
  | bindAddr => inferInstanceAs (DecidableEq Socket)
  | rateLimitIp | rateLimitGlobal => inferInstanceAs (DecidableEq Binary64)
  | rateLimitIpBurst | rateLimitGlobalBurst => inferInstanceAs (DecidableEq UInt32)
  | sweepInterval | requestTimeout | shutdownGrace => inferInstanceAs (DecidableEq Span)
  | logLevel | appEnv => inferInstanceAs (DecidableEq String)
  | logJson => inferInstanceAs (DecidableEq Bool)

instance (flags : List Flag) (env : Environment) (loaded : List (String × String)) (s : Settings)
    (o : Opt) : Decidable (Resolves flags env loaded s o) :=
  match chosen : chosenText flags env loaded o with
  | some text =>
    decidable_of_iff (o.read text = .ok (o.field s)) (by simp only [Resolves, chosen])
  | none => decidable_of_iff (o.field s = o.field .standard) (by simp only [Resolves, chosen])

variable {env env' : Environment} {loaded loaded' : List (String × String)}

theorem textOf_given (o : Opt) :
    textOf (flags.map Flag.given) (env.addAll loaded) o =
      (chosenText flags env loaded o).getD o.defaultText := by
  unfold textOf chosenText
  rw [Environment.lookup_addAll]
  cases (flags.map Flag.given).lookup o <;> rfl

theorem resolves_iff :
    Resolves flags env loaded s o ↔
      o.read (textOf (flags.map Flag.given) (env.addAll loaded) o) = .ok (o.field s) := by
  rw [textOf_given, Resolves]
  cases chosenText flags env loaded o with
  | some text => rfl
  | none => rw [Option.getD_none, o.read_defaultText, Except.ok.injEq, eq_comm]

theorem lookup_given_iff (apart : (flags.map Flag.opt).Nodup) {text : String} :
    (flags.map Flag.given).lookup o = some text ↔ ∃ f ∈ flags, f.given = (o, text) := by
  induction flags with
  | nil => simp
  | cons f flags ih =>
    obtain ⟨notAgain, apart⟩ := List.nodup_cons.1 apart
    rw [List.map_cons, Flag.given, List.lookup_cons]
    by_cases same : o = f.opt
    · subst same
      have others : ∀ g ∈ flags, g.given ≠ (f.opt, text) := by
        intro g hg h
        have again : g.opt = f.opt := congrArg Prod.fst h
        exact notAgain (again ▸ List.mem_map_of_mem hg)
      constructor
      · intro h
        exact ⟨f, List.mem_cons_self, by simpa [Flag.given] using h⟩
      · rintro ⟨g, hg, h⟩
        rcases List.mem_cons.1 hg with rfl | hg
        · simpa [Flag.given] using h
        · exact absurd h (others g hg)
    · have other : (o == f.opt) = false := beq_eq_false_iff_ne.2 same
      rw [other, ih apart]
      simp [Flag.given, Ne.symm same]

theorem chosenText_perm (apart : (flags.map Flag.opt).Nodup) (perm : flags'.Perm flags) :
    chosenText flags' env loaded o = chosenText flags env loaded o := by
  have apart' : (flags'.map Flag.opt).Nodup := (perm.map _).nodup_iff.2 apart
  have same : (flags'.map Flag.given).lookup o = (flags.map Flag.given).lookup o := by
    refine Option.ext fun text => ?_
    rw [lookup_given_iff apart', lookup_given_iff apart]
    exact exists_congr fun f => and_congr_left' perm.mem_iff
  rw [chosenText, chosenText, same]

/-! ### Settings from their sources -/

/-- Flags and variables are parsed as settings that have each option's value from its source. -/
theorem parse_flags_eq_ok_iff (apart : (flags.map Flag.opt).Nodup) :
    parse (flags.map Flag.argument) (env.addAll loaded) = .ok s ↔
      ∀ o, Resolves flags env loaded s o := by
  simp only [parse, bind_eq_ok_iff, scan_flags_eq_ok_iff apart, resolves_iff]
  constructor
  · rintro ⟨_, ⟨-, rfl⟩, settled⟩
    exact settle_eq_ok_iff.1 settled
  · intro resolved
    refine ⟨_, ⟨fun f hf => ?_, rfl⟩, settle_eq_ok_iff.2 resolved⟩
    -- A flag's text is the one that counts, so it has been read.
    have counts : textOf (flags.map Flag.given) (env.addAll loaded) f.opt = f.text := by
      rw [textOf, (lookup_given_iff apart).2 ⟨f, hf, rfl⟩]
    exact Opt.check_eq_ok_iff.2 ⟨_, counts ▸ resolved f.opt⟩

/-- Flags are parsed in the same way beside variables from which the same texts are chosen. -/
theorem parse_flags_congr (apart : (flags.map Flag.opt).Nodup)
    (same : ∀ o, chosenText flags env' loaded' o = chosenText flags env loaded o) :
    parse (flags.map Flag.argument) (env'.addAll loaded') =
      parse (flags.map Flag.argument) (env.addAll loaded) := by
  unfold parse
  -- Flags are scanned before any variable is looked up.
  cases scanned : scan (flags.map Flag.argument) with
  | error stop => rfl
  | ok pairs =>
    obtain ⟨-, rfl⟩ := (scan_flags_eq_ok_iff apart).1 scanned
    exact settle_congr fun o => by rw [textOf_given, textOf_given, same]

theorem exists_resolves_iff :
    (∃ s, ∀ o, Resolves flags env loaded s o) ↔
      ∀ o text, chosenText flags env loaded o = some text → ∃ v, o.read text = .ok v := by
  constructor
  · rintro ⟨s, resolved⟩ o text chosen
    have := resolved o
    rw [Resolves, chosen] at this
    exact ⟨_, this⟩
  · intro readable
    have valued : ∀ o : Opt, ∃ v : o.Value, match chosenText flags env loaded o with
        | some text => o.read text = .ok v
        | none => v = o.field .standard := by
      intro o
      cases chosen : chosenText flags env loaded o with
      | some text => exact readable o text chosen
      | none => exact ⟨_, rfl⟩
    -- The options have values of different types, which only settings keep together.
    choose value holds using valued
    obtain ⟨s, fields⟩ := Opt.exists_field_eq value
    refine ⟨s, fun o => ?_⟩
    rw [Resolves, fields o]
    exact holds o

example : Opt.all.map Opt.envName =
    ["BIND_ADDR", "RATE_LIMIT_IP", "RATE_LIMIT_IP_BURST", "RATE_LIMIT_GLOBAL",
      "RATE_LIMIT_GLOBAL_BURST", "RATE_LIMIT_SWEEP_INTERVAL", "LOG_LEVEL", "LOG_JSON", "APP_ENV",
      "REQUEST_TIMEOUT", "SHUTDOWN_GRACE"] := by decide +kernel

end CommandLine

end Floodgate
