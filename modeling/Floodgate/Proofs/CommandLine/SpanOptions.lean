import Floodgate.Proofs.CommandLine.Sources

/-!
# Options that are spans

Three options are spans of time. When all other options have values, what becomes of the arguments
is a matter of that option's text alone: the settings have the span that the text is read as, or
the text is what is complained of. It may be given behind an equals sign, as an argument of its own
or by a variable.

## Main definitions

* `SpanOpt` — the options that are spans
* `GivesSpan` — arguments and variables that give one of them as some text

## Main results

* `scan_spaced` — a value behind an equals sign and one in an argument of its own
* `GivesSpan.parse_eq_ok_iff`, `GivesSpan.parse_eq_crash_iff` — the settings, or the crash, from
  the text of the option
-/

namespace Floodgate.CommandLine

/-- An option that is a span. -/
inductive SpanOpt where
  | sweepInterval | requestTimeout | shutdownGrace
  deriving DecidableEq, Repr

namespace SpanOpt

/-- The option. -/
def opt : SpanOpt → Opt
  | sweepInterval => .sweepInterval
  | requestTimeout => .requestTimeout
  | shutdownGrace => .shutdownGrace

/-- The settings with another value of the option. -/
def put (t : SpanOpt) (d : Span) (s : Settings) : Settings :=
  match t with
  | sweepInterval => { s with sweepInterval := d }
  | requestTimeout => { s with requestTimeout := d }
  | shutdownGrace => { s with shutdownGrace := d }

theorem isSwitch_opt (t : SpanOpt) : t.opt.isSwitch = false := by cases t <;> rfl

/-- The option as it is given in one argument. -/
def flag (t : SpanOpt) (text : String) : Flag := .valued t.opt t.isSwitch_opt text

end SpanOpt

variable {t : SpanOpt} {text : String} {o : Opt} {s s' : Settings} {seen : Scan} {e : ValueError}
  {front back flags : List Flag} {given : List (Opt × String)} {env : Environment} {d : Span}

/-! ### The value of the option -/

theorem read_eq_ok_iff (t : SpanOpt) (text : String) (d : Span) (s : Settings) :
    t.opt.read text = .ok (t.opt.field (t.put d s)) ↔ readSpan text = .ok d := by
  cases t <;> exact Iff.rfl

theorem field_put (ne : o ≠ t.opt) : o.field (t.put d s) = o.field s := by
  cases t <;> cases o <;> first | rfl | exact absurd rfl ne

theorem check_opt (t : SpanOpt) (text : String) :
    t.opt.check text = (readSpan text).map fun _ => () := by
  cases t <;> rfl

/-- With values for all other options, the settings have the span of the text that counts. -/
theorem settle_span (counts : textOf given env t.opt = text)
    (others : ∀ o, o ≠ t.opt → o.read (textOf given env o) = .ok (o.field s)) :
    settle given env =
      match readSpan text with
      | .ok d => .ok (t.put d s)
      | .error e => .error (.badValue t.opt text e) := by
  cases read : readSpan text with
  | ok d =>
    refine settle_eq_ok_iff.2 fun o => ?_
    by_cases same : o = t.opt
    · subst same
      rw [counts]
      exact (read_eq_ok_iff t text d s).2 read
    · rw [others o same, field_put same]
  | error e =>
    -- The options before this one have their values, so it is the first that has none.
    have bad : valueOf t.opt text readSpan = .error (.badValue t.opt text e) := by
      simp [valueOf, read, t.isSwitch_opt]
    have ne {o : Opt} (other : o ∉ [.sweepInterval, .requestTimeout, .shutdownGrace]) :
        o ≠ t.opt := by
      rintro rfl
      cases t <;> exact other (by decide)
    have bindAddr : valueOf .bindAddr _ readSocket = .ok s.bindAddress :=
      valueOf_eq_ok_iff.2 (others .bindAddr (ne (by decide)))
    have ipRate : valueOf .rateLimitIp _ readRate = .ok s.ipRate :=
      valueOf_eq_ok_iff.2 (others .rateLimitIp (ne (by decide)))
    have ipBurst : valueOf .rateLimitIpBurst _ readCount = .ok s.ipBurst :=
      valueOf_eq_ok_iff.2 (others .rateLimitIpBurst (ne (by decide)))
    have globalRate : valueOf .rateLimitGlobal _ readRate = .ok s.globalRate :=
      valueOf_eq_ok_iff.2 (others .rateLimitGlobal (ne (by decide)))
    have globalBurst : valueOf .rateLimitGlobalBurst _ readCount = .ok s.globalBurst :=
      valueOf_eq_ok_iff.2 (others .rateLimitGlobalBurst (ne (by decide)))
    have logJson : valueOf .logJson _ readSwitch = .ok s.logJson :=
      valueOf_eq_ok_iff.2 (others .logJson (ne (by decide)))
    simp only [settle, bindAddr, ipRate, ipBurst, globalRate, globalBurst, logJson, Bind.bind,
      Except.bind]
    rw [← counts] at bad ⊢
    cases t with
    | sweepInterval =>
      dsimp only [SpanOpt.opt] at bad ⊢
      simp only [bad]
    | requestTimeout =>
      have interval : valueOf .sweepInterval _ readSpan = .ok s.sweepInterval :=
        valueOf_eq_ok_iff.2 (others .sweepInterval (by decide))
      dsimp only [SpanOpt.opt] at bad ⊢
      simp only [interval, bad]
    | shutdownGrace =>
      have interval : valueOf .sweepInterval _ readSpan = .ok s.sweepInterval :=
        valueOf_eq_ok_iff.2 (others .sweepInterval (by decide))
      have timeout : valueOf .requestTimeout _ readSpan = .ok s.requestTimeout :=
        valueOf_eq_ok_iff.2 (others .requestTimeout (by decide))
      dsimp only [SpanOpt.opt] at bad ⊢
      simp only [interval, timeout, bad]

/-! ### One argument -/

/-- Nothing is left to be settled once that is done. -/
theorem settle_settle {seen' : Scan} (settled : seen.settle = .ok seen') :
    seen'.settle = .ok seen' ∧ seen'.ended = seen.ended := by
  obtain ⟨none, ended⟩ := settle_keeps settled
  exact ⟨by simp only [Scan.settle, none], ended⟩

/-- Flags settle the latest option before anything else. -/
theorem foldlM_see_pending (ended : seen.ended = false) (back : List Flag) :
    ((back.map Flag.argument).foldlM Scan.see seen >>= Scan.settle) =
      (seen.settle >>= fun s => (back.map Flag.argument).foldlM Scan.see s >>= Scan.settle) := by
  cases settled : seen.settle with
  | error stop =>
    cases back with
    | nil => exact settled
    | cons f back =>
      rw [List.map_cons, List.foldlM_cons, see_argument_eq ended, settled]
      rfl
  | ok seen' =>
    obtain ⟨again, ended'⟩ := settle_settle settled
    cases back with
    | nil => exact settled.trans again.symm
    | cons f back =>
      rw [List.map_cons, List.foldlM_cons, see_argument_eq ended, settled]
      change _ = ((f.argument :: back.map Flag.argument).foldlM Scan.see seen' >>= Scan.settle)
      rw [List.foldlM_cons, see_argument_eq (ended'.trans ended), again]

/-- Flags of different options with values are all taken. -/
theorem foldlM_see_start (apart : (flags.map Flag.opt).Nodup)
    (checked : ∀ f ∈ flags, f.opt.check f.text = .ok ()) :
    (flags.map Flag.argument).foldlM Scan.see {} = .ok { given := flags.map Flag.given } := by
  simpa using (@foldlM_see_eq_ok_iff flags {} { given := flags.map Flag.given } rfl rfl apart
    (by simp)).2 ⟨checked, by simp⟩

/-- The fault of a flag is the fault of the scan, once the flags before it are taken. -/
theorem scan_eq_error (apart : ((front ++ t.flag text :: back).map Flag.opt).Nodup)
    (checked : ∀ f ∈ front, f.opt.check f.text = .ok ()) (read : readSpan text = .error e) :
    scan ((front ++ t.flag text :: back).map Flag.argument) =
      .error (.badValue t.opt text e) := by
  rw [List.map_append, List.map_cons, List.nodup_append] at apart
  obtain ⟨apart, -, other⟩ := apart
  have fresh : (front.map Flag.given).any (·.1 = t.opt) = false := by
    simp only [List.any_map, List.any_eq_false]
    intro f mem same
    exact other f.opt (List.mem_map_of_mem mem) t.opt List.mem_cons_self (of_decide_eq_true same)
  have taken : Scan.take { given := front.map Flag.given } (t.flag text).opt (t.flag text).text =
      .error (.badValue t.opt text e) := by
    change Scan.take _ t.opt text = _
    simp [Scan.take, fresh, check_opt, read, Except.map]
  rw [scan, List.map_append, List.map_cons, List.foldlM_append, foldlM_see_start apart checked]
  simp only [Bind.bind, Except.bind, List.foldlM_cons]
  rw [see_argument rfl rfl]
  simp only [taken]

/-! ### Two arguments -/

/-- The text begins with a dash and more, as options do. -/
def isDashed (text : String) : Bool :=
  match text.toList with
  | '-' :: _ :: _ => true
  | _ => false

theorem see_plain (ended : seen.ended = false) (plain : isDashed text = false) :
    seen.see text = seen.plain text := by
  unfold isDashed at plain
  unfold Scan.see
  rw [if_neg (by simp [ended])]
  split <;> simp_all

theorem exists_of_isDashed (dashed : isDashed text = true) :
    ∃ c cs, text.toList = '-' :: c :: cs := by
  unfold isDashed at dashed
  split at dashed
  · next c cs eq => exact ⟨c, cs, eq⟩
  · cases dashed

/-- A long argument that is no option of a value is refused before the latest option is settled,
and any other one afterwards. -/
theorem long_of_waiting (waits : seen.pending = some (o, none)) (name : String)
    (value : Option String) :
    ∃ stop, seen.long name value = .error stop ∧ ∀ o v e, stop ≠ .badValue o v e := by
  have settled : seen.settle = .error (.missingValue o) := by simp only [Scan.settle, waits]
  unfold Scan.long
  simp only [settled, Bind.bind, Except.bind]
  repeat' split
  all_goals exact ⟨_, rfl, by simp⟩

/-- An option that waits for its value is not given one that begins as options do. -/
theorem see_dashed (ended : seen.ended = false) (waits : seen.pending = some (o, none))
    (dashed : isDashed text = true) :
    seen.see text = .ok { seen with ended := true } ∨
      ∃ stop, seen.see text = .error stop ∧ ∀ o v e, stop ≠ .badValue o v e := by
  obtain ⟨c, cs, eq⟩ := exists_of_isDashed dashed
  have settled : seen.settle = .error (.missingValue o) := by simp only [Scan.settle, waits]
  unfold Scan.see
  rw [if_neg (by simp [ended]), eq]
  split
  · exact .inl rfl
  · right
    dsimp only
    split
    · exact long_of_waiting waits _ none
    · exact long_of_waiting waits _ _
  · right
    unfold Scan.short
    simp only [settled, Bind.bind, Except.bind]
    split
    all_goals exact ⟨_, rfl, by simp⟩
  · next other => exact absurd rfl (other _ _)

theorem see_name (t : SpanOpt) (given : List (Opt × String)) :
    Scan.see { given := given } ("--" ++ t.opt.name) =
      .ok { given := given, pending := some (t.opt, none) } := by
  cases t <;> rfl

/-- No span begins with a dash. -/
theorem readSpan_dashed (dashed : isDashed text = true) :
    ∃ reason, readSpan text = .error (.unreadable reason) := by
  obtain ⟨c, cs, eq⟩ := exists_of_isDashed dashed
  have read : Span.read text.toList = .error (.numberExpected 0) := by
    rw [eq, Span.read, if_neg (by simp), Span.readFrom]
    rfl
  exact ⟨_, by simp [readSpan, read, SpanError.isCrash]; rfl⟩

/-- A value in an argument of its own waits until the flags behind it settle it. -/
theorem foldlM_see_spaced (plain : isDashed text = false) (given : List (Opt × String)) :
    ((("--" ++ t.opt.name) :: text :: back.map Flag.argument).foldlM Scan.see { given := given } >>=
        Scan.settle) =
      (((t.flag text).argument :: back.map Flag.argument).foldlM Scan.see { given := given } >>=
        Scan.settle) := by
  obtain ⟨waiting, eq⟩ : ∃ seen : Scan,
      seen = { given := given, pending := some (t.opt, some text) } := ⟨_, rfl⟩
  have named : Scan.see { given := given, pending := some (t.opt, none) } text = .ok waiting := by
    rw [see_plain rfl plain, eq]
    rfl
  have settled : waiting.settle = Scan.take { given := given } (t.flag text).opt text := by
    rw [eq]
    rfl
  rw [List.foldlM_cons, see_name]
  change ((text :: back.map Flag.argument).foldlM Scan.see _ >>= Scan.settle) = _
  rw [List.foldlM_cons, named]
  change ((back.map Flag.argument).foldlM Scan.see waiting >>= Scan.settle) = _
  rw [foldlM_see_pending (by rw [eq]) back, List.foldlM_cons, see_argument rfl rfl, settled]
  change _ = ((Scan.take _ (t.flag text).opt text >>= _) >>= _)
  cases Scan.take { given := given } (t.flag text).opt text <;> rfl

/-- A value in an argument of its own is as good as one behind an equals sign. -/
theorem scan_spaced (apart : (front.map Flag.opt).Nodup) (plain : isDashed text = false) :
    scan (front.map Flag.argument ++ ("--" ++ t.opt.name) :: text :: back.map Flag.argument) =
      scan ((front ++ t.flag text :: back).map Flag.argument) := by
  rw [scan_eq, scan_eq, List.map_append, List.map_cons, List.foldlM_append, List.foldlM_append]
  cases before : (front.map Flag.argument).foldlM Scan.see {} with
  | error stop => rfl
  | ok seen =>
    obtain ⟨-, rfl⟩ := (foldlM_see_eq_ok_iff rfl rfl apart (by simp)).1 before
    exact congrArg (Except.map Scan.given) (foldlM_see_spaced plain _)

/-- A value in an argument of its own that begins as options do is not taken for a value. -/
theorem scan_spaced_dashed (apart : (front.map Flag.opt).Nodup)
    (checked : ∀ f ∈ front, f.opt.check f.text = .ok ()) (dashed : isDashed text = true) :
    ∃ stop, (∀ o v e, stop ≠ .badValue o v e) ∧
      scan (front.map Flag.argument ++ ("--" ++ t.opt.name) :: text :: back.map Flag.argument) =
        .error stop := by
  rw [scan_eq, List.foldlM_append, foldlM_see_start apart checked]
  change ∃ stop, _ ∧ Except.map _ (List.foldlM _ _ (_ :: _) >>= _) = _
  rw [List.foldlM_cons, see_name]
  change ∃ stop, _ ∧ Except.map _ (List.foldlM _ _ (_ :: _) >>= _) = _
  rw [List.foldlM_cons]
  rcases @see_dashed text t.opt { given := front.map Flag.given, pending := some (t.opt, none) }
    rfl rfl dashed with ended | ⟨stop, refused, other⟩
  · rw [ended]
    cases back with
    | nil => exact ⟨.missingValue t.opt, by simp, rfl⟩
    | cons f back => exact ⟨.unknownArgument f.argument, by simp, rfl⟩
  · exact ⟨stop, other, by rw [refused]; rfl⟩

/-! ### Settings from the text of the option -/

/-- Arguments and variables that give the option as a text, and every other option as the settings
have it. -/
inductive GivesSpan (t : SpanOpt) (text : String) (s : Settings) :
    List String → Environment → Prop
  | counted {flags : List Flag} {env : Environment} (apart : (flags.map Flag.opt).Nodup)
      (counts : textOf (flags.map Flag.given) env t.opt = text)
      (others : ∀ o, o ≠ t.opt → o.read (textOf (flags.map Flag.given) env o) = .ok (o.field s)) :
      GivesSpan t text s (flags.map Flag.argument) env
  | spaced {front back : List Flag} {env : Environment}
      (apart : ((front ++ t.flag text :: back).map Flag.opt).Nodup)
      (others : ∀ o, o ≠ t.opt →
        o.read (textOf ((front ++ t.flag text :: back).map Flag.given) env o) = .ok (o.field s)) :
      GivesSpan t text s
        (front.map Flag.argument ++ ("--" ++ t.opt.name) :: text :: back.map Flag.argument) env

section Counted

variable (apart : (flags.map Flag.opt).Nodup)
  (others : ∀ o, o ≠ t.opt → o.read (textOf (flags.map Flag.given) env o) = .ok (o.field s))

include apart

theorem textOf_flag {f : Flag} (mem : f ∈ flags) :
    textOf (flags.map Flag.given) env f.opt = f.text := by
  rw [textOf, (lookup_given_iff apart).2 ⟨f, mem, rfl⟩]

include others

theorem check_other {f : Flag} (mem : f ∈ flags) (ne : f.opt ≠ t.opt) :
    f.opt.check f.text = .ok () := by
  have read := others f.opt ne
  rw [textOf_flag apart mem] at read
  exact Opt.check_eq_ok_iff.2 ⟨_, read⟩

/-- What flags and variables are parsed as, from what the text of the option is read as. -/
theorem parse_span (counts : textOf (flags.map Flag.given) env t.opt = text) :
    parse (flags.map Flag.argument) env =
      match readSpan text with
      | .ok d => .ok (t.put d s)
      | .error e => .error (.badValue t.opt text e) := by
  have settled := settle_span counts others
  by_cases checked : ∀ f ∈ flags, f.opt.check f.text = .ok ()
  · rw [parse, (scan_flags_eq_ok_iff apart).2 ⟨checked, rfl⟩]
    exact settled
  · -- The flag at fault is the one of this option, as all others have their values.
    obtain ⟨f, mem, bad⟩ : ∃ f ∈ flags, f.opt.check f.text ≠ .ok () := by
      simpa using checked
    have same : f.opt = t.opt := by
      by_contra ne
      exact bad (check_other apart others mem ne)
    have given : f.text = text := by rw [← textOf_flag apart mem, same, counts]
    have flag : f = t.flag text := by
      cases f with
      | on => cases t <;> cases same
      | valued o isValued value =>
        obtain rfl : o = t.opt := same
        obtain rfl : value = text := given
        rfl
    obtain ⟨e, read⟩ : ∃ e, readSpan text = .error e := by
      cases read : readSpan text with
      | error e => exact ⟨e, rfl⟩
      | ok d =>
        rw [same, given] at bad
        exact absurd (Opt.check_eq_ok_iff.2 ⟨_, (read_eq_ok_iff t text d s).2 read⟩) bad
    obtain ⟨front, back, rfl⟩ := List.append_of_mem mem
    subst flag
    have others_checked : ∀ g ∈ front, g.opt.check g.text = .ok () := by
      intro g mem
      refine check_other apart others (List.mem_append_left _ mem) fun again => ?_
      rw [List.map_append, List.nodup_append] at apart
      exact apart.2.2 g.opt (List.mem_map_of_mem mem) t.opt List.mem_cons_self again
    rw [parse, scan_eq_error apart others_checked read, read]
    rfl

end Counted

variable {arguments : List String}

namespace GivesSpan

/-- Either way of giving the text, unless it begins as options do and is refused without being
read. -/
theorem parse_eq (gives : GivesSpan t text s arguments env) :
    (parse arguments env =
      match readSpan text with
      | .ok d => .ok (t.put d s)
      | .error e => .error (.badValue t.opt text e)) ∨
    (∃ reason, readSpan text = .error (.unreadable reason)) ∧
      ∃ stop, (∀ o v e, stop ≠ .badValue o v e) ∧ parse arguments env = .error stop := by
  cases gives with
  | counted apart counts others => exact .inl (parse_span apart others counts)
  | @spaced front back env apart others =>
    have mem : t.flag text ∈ front ++ t.flag text :: back := by simp
    have alone := apart
    rw [List.map_append, List.nodup_append] at alone
    cases dashed : isDashed text with
    | false =>
      left
      rw [parse, scan_spaced alone.1 dashed]
      exact parse_span apart others (textOf_flag apart mem)
    | true =>
      have checked : ∀ f ∈ front, f.opt.check f.text = .ok () := fun f mem =>
        check_other apart others (List.mem_append_left _ mem) fun again =>
          alone.2.2 f.opt (List.mem_map_of_mem mem) t.opt List.mem_cons_self again
      obtain ⟨stop, other, scanned⟩ := @scan_spaced_dashed t text front back alone.1 checked dashed
      refine .inr ⟨readSpan_dashed dashed, stop, other, ?_⟩
      rw [parse, scanned]
      rfl

/-- The settings have the span that the text is read as. -/
theorem parse_eq_ok_iff (gives : GivesSpan t text s arguments env) :
    parse arguments env = .ok s' ↔ ∃ d, readSpan text = .ok d ∧ s' = t.put d s := by
  rcases gives.parse_eq with parsed | ⟨⟨reason, read⟩, stop, -, parsed⟩
  · rw [parsed]
    cases readSpan text <;> simp [eq_comm]
  · rw [parsed, read]
    simp

/-- Reading the text stops the program just when parsing does. -/
theorem parse_eq_crash_iff (gives : GivesSpan t text s arguments env) {message : String} :
    parse arguments env = .error (.badValue t.opt text (.crashed message)) ↔
      readSpan text = .error (.crashed message) := by
  rcases gives.parse_eq with parsed | ⟨⟨reason, read⟩, stop, other, parsed⟩
  · rw [parsed]
    cases readSpan text <;> simp
  · rw [parsed, read]
    simpa using other _ _ _

end GivesSpan

end Floodgate.CommandLine
