import Floodgate.Proofs.CommandLine.Complaints
import Floodgate.Proofs.Json.Tracing
import Floodgate.Proofs.Spans
import Floodgate.Proofs.Time.Overflow

/-!
# What stops the program while settings are read

Of all texts that settings are read from, only those of spans can stop the program, and of these
only the ones whose parts add up to `2 ^ 64` seconds exactly at a part of nanoseconds. Such a text
does so wherever a span is read: as the interval in a JSON text, as the value of an option, or as
that of its variable.

## Main results

* `Limits.exists_text_of_readJson_crash` — a JSON text that stops the program spells such a text
* `CommandLine.check_eq_crash_iff` — the values of options that stop the program
* `reading_crashes` — when reading settings stops the program
-/

namespace Floodgate

open Floodgate.Span (CarriesOver)

variable {cs : List Char} {message text json : String} {l : Limits}

theorem SpanError.isCrash_iff {e : SpanError} : e.isCrash = true ↔ e = .carryOverflow := by
  cases e <;> simp [isCrash]

/-- The texts of spans that stop the program, and what is said then. -/
theorem exists_crash_iff :
    (∃ e, Span.read cs = .error e ∧ e.isCrash = true ∧ e.message = message) ↔
      CarriesOver cs ∧ message = SpanError.carryOverflow.message := by
  simp only [SpanError.isCrash_iff]
  constructor
  · rintro ⟨e, read, rfl, rfl⟩
    exact ⟨Span.read_eq_carryOverflow_iff.1 read, rfl⟩
  · rintro ⟨carries, rfl⟩
    exact ⟨_, Span.read_eq_carryOverflow_iff.2 carries, rfl, rfl⟩

/-! ### JSON texts -/

namespace Json

/-- Only a text can stop the program in place of a span. -/
theorem Found.span_eq_crash_iff {x : Found} :
    x.span = .error (.crashed message) ↔
      ∃ text, x = .text text ∧ CarriesOver text.toList ∧
        message = SpanError.carryOverflow.message := by
  cases x with
  | text s =>
    rw [span_text_eq_crash_iff, exists_crash_iff]
    simp
  | null | bool b | number n | array | object => simp [span, wrongType]

theorem Found.binary64_ne_crash (x : Found) : x.binary64 ≠ .error (.crashed message) := by
  unfold binary64
  split <;> simp [wrongType]

theorem Found.uint32_ne_crash (x : Found) : x.uint32 ≠ .error (.crashed message) := by
  unfold uint32
  split
  · split_ifs <;> simp [wrongValue]
  · simp [wrongValue]
  · simp [wrongType]

end Json

namespace Limits

open Json

/-- A text of a span that stops the program stands at the beginning of what is read. -/
def StopsAt (cs : List Char) (message : String) : Prop :=
  ∃ text rest, readFound cs = .ok (.text text, rest) ∧ CarriesOver text.toList ∧
    message = SpanError.carryOverflow.message

theorem Member.traced_read (m : Member) (cs : List Char) :
    Traced StopsAt Prod.snd cs (m.read cs) := by
  cases m with
  | ipRate | globalRate =>
    exact judges_readBinary64.traced (fun _ x _ _ _ judged => absurd judged x.binary64_ne_crash) cs
  | ipBurst | globalBurst =>
    exact judges_readUInt32.traced (fun _ x _ _ _ judged => absurd judged x.uint32_ne_crash) cs
  | sweepInterval =>
    refine judges_readSpan.traced (fun cs x rest m found judged => ?_) cs
    obtain ⟨text, rfl, carries, rfl⟩ := Found.span_eq_crash_iff.1 judged
    exact ⟨text, rest, found, carries, rfl⟩

theorem isTraced_record : record.IsTraced StopsAt := by
  intro slot mem d cs
  rw [record_slots] at mem
  obtain ⟨m, -, rfl⟩ := List.mem_map.1 mem
  exact (m.traced_read cs).bind fun _ => .ok List.suffix_rfl

/-- A JSON text that stops the program has a string that spells the text of a span which does. -/
theorem exists_text_of_readJson_crash (crashed : readJson json = .error (.crashed message)) :
    message = SpanError.carryOverflow.message ∧
      ∃ v text, v <:+: json.toList ∧ SpellsText v text ∧ CarriesOver text.toList := by
  obtain ⟨cs, suffix, text, rest, found, carries, said⟩ :=
    isTraced_record.exists_of_read_eq_crash crashed
  obtain ⟨v, spells, within⟩ := exists_spellsText_of_readFound found
  exact ⟨said, v, text, within.trans suffix.isInfix, spells, carries⟩

end Limits

/-! ### The command line and the environment -/

namespace CommandLine

variable {o : Opt}

/-- Addresses, numbers and switches are refused at worst. -/
theorem check_ne_crash (other : ∀ t : SpanOpt, o ≠ t.opt) :
    o.check text ≠ .error (.crashed message) := by
  cases o with
  | sweepInterval => exact absurd rfl (other .sweepInterval)
  | requestTimeout => exact absurd rfl (other .requestTimeout)
  | shutdownGrace => exact absurd rfl (other .shutdownGrace)
  | bindAddr =>
    rw [Opt.check, Ne, map_eq_error_iff]
    unfold readSocket
    split <;> simp
  | rateLimitIp | rateLimitGlobal =>
    rw [Opt.check, Ne, map_eq_error_iff]
    unfold readRate
    split <;> simp
  | rateLimitIpBurst | rateLimitGlobalBurst =>
    rw [Opt.check, Ne, map_eq_error_iff]
    unfold readCount
    split
    · simp
    · split_ifs <;> simp
  | logJson =>
    rw [Opt.check, Ne, map_eq_error_iff]
    unfold readSwitch
    split <;> simp
  | logLevel | appEnv => rintro ⟨⟩

theorem check_eq_crash_iff :
    o.check text = .error (.crashed message) ↔
      (∃ t : SpanOpt, o = t.opt) ∧ CarriesOver text.toList ∧
        message = SpanError.carryOverflow.message := by
  by_cases span : ∃ t : SpanOpt, o = t.opt
  · obtain ⟨t, rfl⟩ := span
    rw [check_opt, map_eq_error_iff, readSpan_eq_crash_iff, exists_crash_iff]
    exact (and_iff_right ⟨t, rfl⟩).symm
  · simp only [span, false_and, iff_false]
    exact check_ne_crash (not_exists.1 span)

end CommandLine

/-! ### All sources -/

open CommandLine Limits

/-- Reading settings stops the program in no other way than by a text of a span whose parts add up
to `2 ^ 64` seconds exactly. In JSON it is spelled by a string of the text. On the command line it
is the text that is complained of, which is given in the arguments or by the option's variable, and
the program is stopped instead of telling it just when it is such a text of an option that is a
span. And such a text does stop the program wherever the other settings have values: as the
interval in a JSON text and as any such option. -/
theorem reading_crashes (json : String) (arguments : List String) (env : Environment) :
    (∀ message, readJson json = .error (.crashed message) →
      message = SpanError.carryOverflow.message ∧
        ∃ v text, v <:+: json.toList ∧ Json.SpellsText v text ∧ CarriesOver text.toList) ∧
    (∀ o text e, parse arguments env = .error (.badValue o text e) →
      (Gives arguments o text ∨ env.lookup o.envName = some text) ∧
        ∀ message, e = .crashed message ↔
          (∃ t : SpanOpt, o = t.opt) ∧ CarriesOver text.toList ∧
            message = SpanError.carryOverflow.message) ∧
    (∀ text l, GivesInterval json text l →
      (readJson json = .error (.crashed SpanError.carryOverflow.message) ↔
        CarriesOver text.toList)) ∧
    ∀ t text s, GivesSpan t text s arguments env →
      (parse arguments env =
          .error (.badValue t.opt text (.crashed SpanError.carryOverflow.message)) ↔
        CarriesOver text.toList) := by
  refine ⟨fun message => exists_text_of_readJson_crash, fun o text e refused => ?_,
    fun text l gives => ?_, fun t text s gives => ?_⟩
  · obtain ⟨bad, given⟩ := parse_eq_badValue refused
    refine ⟨given, fun message => ?_⟩
    rw [← check_eq_crash_iff, bad, Except.error.injEq]
  · rw [readJson_span_eq_crash_iff gives, exists_crash_iff]
    exact and_iff_left rfl
  · rw [gives.parse_eq_crash_iff, readSpan_eq_crash_iff, exists_crash_iff]
    exact and_iff_left rfl

/-- The greatest number of seconds and all but a millisecond of one more, and that millisecond in
microseconds: as the interval of limits, and as an argument of its own. -/
theorem reading_crashes_at_last_millisecond :
    readJson (Json.object [("ip_rate", .natural 10), ("ip_burst", .natural 20),
      ("global_rate", .natural 100), ("global_burst", .natural 200),
      ("sweep_interval", .text "18446744073709551615s 999ms 1000us")]).render =
        .error (.crashed "overflow in Duration::new") ∧
    parse ["--shutdown-grace", "18446744073709551615s 999ms 1000us", "--log-json"] [] =
      .error (.badValue .shutdownGrace "18446744073709551615s 999ms 1000us"
        (.crashed "overflow in Duration::new")) := by
  have carries : CarriesOver "18446744073709551615s 999ms 1000us".toList :=
    Span.read_eq_carryOverflow_iff.1 (by decide +kernel)
  have given : GivesSpan .shutdownGrace "18446744073709551615s 999ms 1000us"
      { Settings.standard with logJson := true }
      ["--shutdown-grace", "18446744073709551615s 999ms 1000us", "--log-json"] [] := by
    refine @GivesSpan.spaced .shutdownGrace _ _ [] [.on] [] (by decide) fun o ne => ?_
    cases o with
    | shutdownGrace => exact absurd rfl ne
    | _ => decide +kernel
  obtain ⟨-, -, interval, option⟩ := reading_crashes
    (Json.object [("ip_rate", .natural 10), ("ip_burst", .natural 20),
      ("global_rate", .natural 100), ("global_burst", .natural 200),
      ("sweep_interval", .text "18446744073709551615s 999ms 1000us")]).render
    ["--shutdown-grace", "18446744073709551615s 999ms 1000us", "--log-json"] []
  exact ⟨(interval _ _ (givesInterval_render _)).2 carries, (option _ _ _ given).2 carries⟩

/-- The greatest number of seconds and a thousand milliseconds: no settings, and no error that is
told. -/
theorem reading_crashes_at_last_second :
    readJson "[10,20,100,200,\"18446744073709551615s 1000ms\"]" =
      .error (.crashed "overflow in Duration::new") ∧
    parse ["--sweep-interval=18446744073709551615s 1000ms"] [] =
      .error (.badValue .sweepInterval "18446744073709551615s 1000ms"
        (.crashed "overflow in Duration::new")) := by
  decide +kernel

end Floodgate
