import Floodgate.Proofs.CommandLine.SpanOptions
import Floodgate.Proofs.Limits.Interval
import Floodgate.Proofs.Time.SpanText

/-!
# Spans mean the same in every place

A span may be given in a JSON text of limits, as an option of the command line or by a variable.
The same texts are spans in all of these places, and each stands for the same span: it is what the
reader of spans makes of the text alone. What is written for a span is read as that span everywhere.

## Main results

* `spans_alike` — one text in a JSON text and as an option
-/

namespace Floodgate

open CommandLine Limits

variable {json text message : String} {l l' : Limits} {s : Settings} {t : SpanOpt}
  {arguments : List String} {env : Environment} {d : Span}

/-! ### One place at a time -/

theorem span_text_eq_ok_iff :
    Json.Found.span (.text text) = .ok d ↔ Span.read text.toList = .ok d := by
  simp only [Json.Found.span]
  cases Span.read text.toList with
  | ok d => simp
  | error e => cases crash : e.isCrash <;> simp [crash]

theorem span_text_eq_crash_iff :
    Json.Found.span (.text text) = .error (.crashed message) ↔
      ∃ e, Span.read text.toList = .error e ∧ e.isCrash = true ∧ e.message = message := by
  simp only [Json.Found.span]
  cases Span.read text.toList with
  | ok d => simp
  | error e => cases crash : e.isCrash <;> simp [crash, Json.Found.wrongValue]

theorem readSpan_eq_ok_iff : readSpan text = .ok d ↔ Span.read text.toList = .ok d := by
  unfold readSpan
  cases Span.read text.toList with
  | ok d => simp
  | error e => cases crash : e.isCrash <;> simp [crash]

theorem readSpan_eq_crash_iff :
    readSpan text = .error (.crashed message) ↔
      ∃ e, Span.read text.toList = .error e ∧ e.isCrash = true ∧ e.message = message := by
  unfold readSpan
  cases Span.read text.toList with
  | ok d => simp
  | error e => cases crash : e.isCrash <;> simp [crash]

/-- A text in place of the interval is accepted just when it stands for a span. -/
theorem readJson_span_eq_ok_iff (gives : GivesInterval json text l) :
    readJson json = .ok l' ↔
      ∃ d, Span.read text.toList = .ok d ∧ l' = { l with sweepInterval := d } := by
  rw [gives.readJson_eq, map_eq_ok_iff]
  exact exists_congr fun d => and_congr span_text_eq_ok_iff eq_comm

theorem readJson_span_eq_crash_iff (gives : GivesInterval json text l) :
    readJson json = .error (.crashed message) ↔
      ∃ e, Span.read text.toList = .error e ∧ e.isCrash = true ∧ e.message = message := by
  rw [gives.readJson_eq, ← span_text_eq_crash_iff]
  cases Json.Found.span (.text text) <;> simp [Except.map]

/-! ### Both places -/

/-- One text as the interval in a JSON text and as an option. Either is accepted exactly when the
text is read as a span, and then has that span; the text stops the program in one place just when
it does in the other; and what is written for a span is accepted as that span in both. -/
theorem spans_alike (inJson : GivesInterval json text l)
    (onLine : GivesSpan t text s arguments env) :
    (∀ l', readJson json = .ok l' ↔
      ∃ d, Span.read text.toList = .ok d ∧ l' = { l with sweepInterval := d }) ∧
    (∀ s', parse arguments env = .ok s' ↔
      ∃ d, Span.read text.toList = .ok d ∧ s' = t.put d s) ∧
    (∀ message, readJson json = .error (.crashed message) ↔
      parse arguments env = .error (.badValue t.opt text (.crashed message))) ∧
    ∀ d : Span, text = String.ofList d.write →
      readJson json = .ok { l with sweepInterval := d } ∧
        parse arguments env = .ok (t.put d s) := by
  have parsed {s' : Settings} : parse arguments env = .ok s' ↔
      ∃ d, Span.read text.toList = .ok d ∧ s' = t.put d s := by
    simp only [onLine.parse_eq_ok_iff, readSpan_eq_ok_iff]
  refine ⟨fun _ => readJson_span_eq_ok_iff inJson, fun _ => parsed, fun message => ?_,
    fun d written => ?_⟩
  · rw [readJson_span_eq_crash_iff inJson, onLine.parse_eq_crash_iff, readSpan_eq_crash_iff]
  · have read : Span.read text.toList = .ok d := by
      rw [written, String.toList_ofList]
      exact d.read_write
    exact ⟨(readJson_span_eq_ok_iff inJson).2 ⟨d, read, rfl⟩, parsed.2 ⟨d, read, rfl⟩⟩

/-- An hour and half a minute, as the last member of an object and as an argument of its own. -/
theorem hour_alike :
    readJson (Json.object [("ip_rate", .natural 10), ("ip_burst", .natural 20),
      ("global_rate", .natural 100), ("global_burst", .natural 200),
      ("sweep_interval", .text "1h 30s")]).render =
        .ok { Limits.standard with sweepInterval := .ofSeconds 3630 } ∧
    parse ["--log-json", "--request-timeout", "1h 30s", "--rate-limit-ip=10"] [] =
      .ok { Settings.standard with logJson := true, requestTimeout := .ofSeconds 3630 } := by
  have inJson := givesInterval_render "1h 30s"
  have onLine : GivesSpan .requestTimeout "1h 30s" { Settings.standard with logJson := true }
      ["--log-json", "--request-timeout", "1h 30s", "--rate-limit-ip=10"] [] := by
    refine @GivesSpan.spaced .requestTimeout _ _ [.on] [.valued .rateLimitIp rfl "10"] []
      (by decide) fun o ne => ?_
    cases o with
    | requestTimeout => exact absurd rfl ne
    | _ => decide +kernel
  have read : Span.read "1h 30s".toList = .ok (.ofSeconds 3630) := by decide +kernel
  obtain ⟨limits, settings, -, -⟩ := spans_alike inJson onLine
  exact ⟨(limits _).2 ⟨_, read, rfl⟩, (settings _).2 ⟨_, read, by rw [SpanOpt.put]⟩⟩

end Floodgate
