import Floodgate.Proofs.Limiter.Burst
import Floodgate.Proofs.Limiter.Ceiling
import Floodgate.Proofs.Limiter.GlobalTier

/-!
# Recovery

While the clock does not go back, every bucket gains from all the time in which nobody asks: it was
last refilled before that time began, and what it held is no less than nothing. Time that is worth
some tokens to both tiers, and a `2 ^ 50`th of them for the roundings, is therefore enough for that
many requests, whatever was refused before and whoever was swept.

## Main definitions

* `Limiter.RestsSince` — no bucket was refilled after an instant

## Main results

* `Session.restsSince_of_quiet` — buckets rest while nobody asks
* `Session.outcomes_replicate_allow` — what the buckets hold is enough for as many requests
* `Session.quiet_recovers` — how many requests are admitted after a quiet time
-/

namespace Floodgate

open Bucket

/-- No bucket was refilled after this instant. -/
structure Limiter.RestsSince (l : Limiter) (t : Instant) : Prop where
  global : l.global.lastRefill.Onward t
  clients : ∀ client b, l.clients.get? client = some b → b.lastRefill.Onward t

/-- What a bucket holds after time that is worth as much, when it rested for all of it. -/
theorem Bucket.Serves.le_holding {capacity : UInt32} {rate : Binary64} {b : Bucket}
    (serves : b.Serves capacity rate) {t now : Instant} (rested : b.lastRefill.Onward t) {n : ℕ}
    (fits : n ≤ capacity.toNat)
    (enough : (1 + 1 / 2 ^ 50) * n ≤ rate.toRat * ((now.since t : ℕ) / nanosPerSecond)) :
    n ≤ b.holding now := by
  refine serves.le_toRat_projected fits (enough.trans ?_)
  apply mul_le_mul_of_nonneg_left _ (Limits.toRat_pos_of_isRate serves.isRate).le
  apply div_le_div_of_nonneg_right _ (Nat.cast_nonneg _)
  exact_mod_cast Nat.sub_le_sub_left rested _

/-- The same of a client's bucket, which is full when it has yet to be made. -/
theorem Limiter.Sound.le_holding {l : Limiter} (sound : l.Sound) {t now : Instant}
    (rests : l.RestsSince t) {n : ℕ} (fits : n ≤ l.limits.ipBurst.toNat)
    (enough : (1 + 1 / 2 ^ 50) * n ≤ l.limits.ipRate.toRat * ((now.since t : ℕ) / nanosPerSecond))
    (client : String) : n ≤ l.holding now client := by
  rw [Limiter.holding]
  cases tracked : l.clients.get? client with
  | some b =>
    exact (sound.clients client b tracked).le_holding (rests.clients client b tracked) fits enough
  | none => exact Nat.cast_le.2 fits

namespace Session

/-- Without requests there are no calls. -/
theorem calls_eq_nil {s : Session} {ops : List Operation}
    (silent : ∀ op ∈ ops, op.isRequest = false) : s.calls ops = [] := by
  induction ops generalizing s with
  | nil => rfl
  | cons op ops ih =>
    obtain ⟨here, silent⟩ := List.forall_mem_cons.1 silent
    have noCall : s.call? op = none := by
      refine call?_eq_none ?_
      rintro client rfl
      exact Bool.false_ne_true here.symm
    rw [calls, noCall, ih silent]
    rfl

/-- While nobody asks, the buckets rest. -/
theorem restsSince_of_quiet {limits : Limits} {now : Instant} {ops quiet : List Operation}
    (forward : Forward ⟨.start limits now, now⟩ (ops ++ quiet))
    (silent : ∀ op ∈ quiet, op.isRequest = false) :
    let before := (run ⟨.start limits now, now⟩ ops).1
    (before.run quiet).1.limiter.RestsSince before.now := by
  have earlier := (forward_append.1 forward).1.leads
  have leads := forward.leads
  -- Every refill was made for a request, and all requests came before the quiet time.
  rw [calls_append, calls_eq_nil silent, List.append_nil, run_append] at leads
  have before : ∀ t ∈ (calls ⟨.start limits now, now⟩ ops).map Call.instant,
      t.Onward (run ⟨.start limits now, now⟩ ops).1.now := by
    intro t mem
    obtain ⟨k, asked, rfl⟩ := List.mem_map.1 mem
    exact (earlier.instant_le k asked).2
  constructor
  · rw [leads.global_lastRefill]
    cases last : ((calls ⟨.start limits now, now⟩ ops).map Call.instant).getLast? with
    | none => exact earlier.now_le
    | some t => exact before t (List.mem_of_getLast? last)
  · intro client b tracked
    obtain untracked | ⟨k, asked, -, -, refilled⟩ := leads.tracked_cases tracked
    · exact nomatch untracked
    · rw [← refilled]
      exact before _ (List.mem_map_of_mem asked)

/-- A client is admitted as often as the buckets of both tiers hold tokens. -/
theorem outcomes_replicate_allow {s : Session} (sound : s.limiter.Sound) {client : String} {n : ℕ}
    (global : n ≤ s.limiter.global.holding s.now) (own : n ≤ s.limiter.holding s.now client) :
    (s.run (List.replicate n (.allow client))).2 =
      List.replicate n (.decided client .admitted) := by
  induction n generalizing s with
  | zero => rfl
  | succ n ih =>
    obtain ⟨verdict, limiter, step, charged⟩ := s.exists_step_allow client
    have spends := charged.spends sound
    push_cast at global own
    have whole : (1 : ℚ) ≤ n + 1 := le_add_of_nonneg_left (Nat.cast_nonneg n)
    have passed : verdict.passedGlobal = true := by
      rw [← Bool.not_eq_false, Verdict.passedGlobal_eq_false_iff, spends.refused_iff, not_lt]
      exact whole.trans global
    have admitted := (spends.admitted_iff passed).2 (whole.trans own)
    have global' := spends.global_eq
    have own' := spends.client_eq client
    rw [if_pos passed] at global'
    rw [if_pos ⟨rfl, admitted⟩] at own'
    have rest := ih (s := { s with limiter }) (sound.charged charged)
      (by dsimp only; linarith) (by dsimp only; linarith)
    rw [List.replicate_succ, List.replicate_succ, run, step, ← rest, admitted]

/-- After a time without requests in which each tier gains as much as some requests need, and a
`2 ^ 50`th more, that many requests of a client are admitted, if the bursts are not smaller. -/
theorem quiet_recovers {limits : Limits} {limiter : Limiter} {now : Instant}
    (made : Limiter.new limits now = .ok limiter) {ops quiet : List Operation}
    (forward : Forward ⟨limiter, now⟩ (ops ++ quiet))
    (silent : ∀ op ∈ quiet, op.isRequest = false) {n : ℕ} (ipFits : n ≤ limits.ipBurst.toNat)
    (globalFits : n ≤ limits.globalBurst.toNat) :
    let before := (run ⟨limiter, now⟩ ops).1
    let after := (before.run quiet).1
    let time : ℚ := (after.now.since before.now : ℕ) / nanosPerSecond
    (1 + 1 / 2 ^ 50) * n ≤ limits.ipRate.toRat * time →
    (1 + 1 / 2 ^ 50) * n ≤ limits.globalRate.toRat * time →
    ∀ client, (after.run (List.replicate n (.allow client))).2 =
      List.replicate n (.decided client .admitted) := by
  intro before after time ipEnough globalEnough client
  have reached : after.Reachable limits := ⟨limiter, now, ops ++ quiet, made, by rw [run_append]⟩
  have sound := reached.sound
  have limits_eq := reached.limits_eq
  have rests : after.limiter.RestsSince before.now := by
    obtain ⟨-, rfl⟩ := Limiter.new_eq_ok_iff.1 made
    exact restsSince_of_quiet forward silent
  apply outcomes_replicate_allow sound
  · have serves := sound.global
    rw [limits_eq] at serves
    exact serves.le_holding rests.global globalFits globalEnough
  · exact sound.le_holding rests (limits_eq ▸ ipFits) (limits_eq ▸ ipEnough) client

/-- Two clients spend the global burst, and a third one is refused. -/
def rushHour : List Operation := [.allow "a", .allow "a", .allow "b", .allow "b", .allow "c"]

/-- Three seconds without requests; after the second of the sweeps nobody is tracked. -/
def lull : List Operation :=
  [.advance (.ofSeconds 2), .sweep, .advance (.ofSeconds 1), .sweep]

theorem lull_recovers :
    let before := (run ⟨.start .modest .base, .base⟩ rushHour).1
    Forward ⟨.start .modest .base, .base⟩ (rushHour ++ lull) ∧
      (∀ op ∈ lull, op.isRequest = false) ∧
      (before.run [.allow "a", .allow "d"]).2 =
        [.decided "a" (.refused .global), .decided "d" (.refused .global)] ∧
      Outcome.swept 2 ∈ (before.run lull).2 ∧
      ∀ client, ((before.run lull).1.run [.allow client, .allow client]).2 =
        [.decided client .admitted, .decided client .admitted] := by
  intro before
  have forward : Forward ⟨.start .modest .base, .base⟩ (rushHour ++ lull) := by decide +kernel
  have silent : ∀ op ∈ lull, op.isRequest = false := by decide
  refine ⟨forward, silent, by decide +kernel, by decide +kernel, ?_⟩
  exact quiet_recovers (Limiter.new_modest .base) forward silent (n := 2) (by decide) (by decide)
    (by decide +kernel) (by decide +kernel)

end Session

end Floodgate
