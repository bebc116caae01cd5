import Floodgate.Janitor.Basic
import Floodgate.Proofs.Janitor.Ticks
import Floodgate.Proofs.Limiter.Reachable

/-!
# When the janitor sweeps

A janitor keeps to the schedule that was started when it was spawned, whatever is done in the
meantime: it never sweeps early, it does not make up for sweeps that were missed while time was
moved at once, and it misses none while time moves from timer to timer. Whatever ends it leaves
nothing of it behind.

A timer waits for thirty years at most. The first sweep of a janitor with a longer period still
comes after one period, but all the others come thirty years apart.

## Main definitions

* `Premises.after`, `Premises.told` — what acts lead to, and the events that come of them
* `Premises.sweeps` — the instants of the janitor's sweeps
* `Premises.Reachable` — premises of accepted limits after any acts
* `Premises.Paced` — sweeps that are neither early nor too many

## Main results

* `Premises.countP_told` — every sweep is told of
* `Premises.ticks_sweeps`, `Premises.punctual_sweeps` — the sweeps are ticks of the schedule
* `Premises.keeps_schedule` — when a janitor sweeps, and that it does so no more when it has ended
-/

namespace Floodgate

open Schedule

namespace Act

/-- The janitor that there is, if any, is told to stop, dropped or replaced. -/
def endsJanitor : Act → Bool
  | spawn | shutdown | drop => true
  | operate _ | sleep _ | jump _ => false

/-- Time is moved at once. -/
def isJump : Act → Bool
  | jump _ => true
  | _ => false

/-- The runtime's time moves. -/
def moves : Act → Bool
  | sleep _ | jump _ => true
  | operate _ | spawn | shutdown | drop => false

/-- The runtime's time after an act. -/
def timeAfter (now : ℕ) : Act → ℕ
  | sleep millis => now + waited (millis * nanosPerMilli)
  | jump millis => now + millis * nanosPerMilli
  | _ => now

/-- The ticks of a schedule during an act, and the schedule after them. -/
def ticks (s : Schedule) (now : ℕ) : Act → List ℕ × Schedule
  | sleep millis => s.ticksUntil now (now + waited (millis * nanosPerMilli))
  | jump millis => s.ticksAt (now + millis * nanosPerMilli)
  | _ => ([], s)

/-- The janitor after an act that does not end it. -/
def proceed (act : Act) (now : ℕ) : Janitor → Janitor
  | .running s => .running (act.ticks s now).2
  | .failed => .failed

variable {s : Schedule} {act : Act} {t now : ℕ}

theorem le_timeAfter (now : ℕ) (act : Act) : now ≤ act.timeAfter now := by
  cases act <;> simp [timeAfter]

theorem ticks_ticks (s : Schedule) (now : ℕ) (act : Act) :
    Ticks s (act.ticks s now).1 (act.ticks s now).2 := by
  cases act with
  | sleep millis => exact ticks_ticksUntil s _ _
  | jump millis => exact ticks_ticksAt s _
  | _ => exact .nil s

theorem le_of_mem_ticks (mem : t ∈ (act.ticks s now).1) : t ≤ act.timeAfter now := by
  cases act with
  | sleep millis => exact le_of_mem_ticksUntil (Nat.le_add_right _ _) mem
  | jump millis => exact (eq_of_mem_ticksAt mem).le
  | _ => exact absurd mem List.not_mem_nil

/-- Unless time is moved at once, ticks are punctual, and the next one stays ahead. -/
theorem punctual_ticks (slow : act.isJump = false) (ahead : now < s.wakes) :
    Punctual s (act.ticks s now).1 (act.ticks s now).2 ∧
      act.timeAfter now < (act.ticks s now).2.wakes := by
  cases act with
  | sleep millis => exact ⟨punctual_ticksUntil ahead.le, lt_wakes_ticksUntil s _ _⟩
  | jump millis => exact absurd slow Bool.true_eq_false.mp
  | _ => exact ⟨.nil s, ahead⟩

end Act

/-- The event of a janitor's finished sweep. -/
def Event.tellsSweep (e : Event) : Bool :=
  decide (e.target = "gatekeeper::janitor" ∧ e.message = "Rate limiter sweep finished")

namespace Premises

/-- The premises after acts. -/
def after (p : Premises) : List Act → Premises
  | [] => p
  | act :: acts => (p.step act).1.after acts

/-- The events that come of acts. -/
def told (p : Premises) : List Act → List Event
  | [] => []
  | act :: acts => (p.step act).2.2 ++ (p.step act).1.told acts

/-- The instants at which the janitor sweeps during an act. -/
def sweepsIn (p : Premises) (act : Act) : List ℕ :=
  match p.janitor with
  | some (.running s) => (act.ticks s p.now).1
  | _ => []

/-- The instants at which the janitor sweeps during acts. -/
def sweeps (p : Premises) : List Act → List ℕ
  | [] => []
  | act :: acts => p.sweepsIn act ++ (p.step act).1.sweeps acts

/-- Premises of accepted limits: those of a limiter made at any instant on a runtime whose time is
whatever it is, after any acts. -/
def Reachable (limits : Limits) (p : Premises) : Prop :=
  ∃ limiter now start acts, Limiter.new limits now = .ok limiter ∧
    after ⟨⟨limiter, now⟩, start, none⟩ acts = p

/-- Sweeps of a period that begins at `start`: the first one is not early, the next ones keep a wait
away from it and from each other, and they are never more than are called for. -/
structure Paced (period start : ℕ) (sweeps : List ℕ) : Prop where
  le_getElem : ∀ k, ∀ lt : k < sweeps.length, start + period + k * waited period ≤ sweeps[k]
  countP_le : ∀ t, sweeps.countP (· ≤ t) ≤ dueIn period (t - start)

/-! ### One act -/

variable {p : Premises} {act : Act} {s : Schedule} {t : ℕ}

theorem limits_sweepTimes (l : Limiter) (now : Instant) (n : ℕ) :
    (sweepTimes l now n).1.limits = l.limits := by
  induction n generalizing l with
  | zero => rfl
  | succ n ih => exact (ih _).trans (l.limits_sweep now)

theorem countP_sweepTimes (l : Limiter) (now : Instant) (n : ℕ) :
    (sweepTimes l now n).2.countP Event.tellsSweep = n := by
  induction n generalizing l with
  | zero => rfl
  | succ n ih => exact (List.countP_cons_of_pos rfl).trans (congrArg (· + 1) (ih _))

theorem sweepsIn_of_running (running : p.janitor = some (.running s)) (act : Act) :
    p.sweepsIn act = (act.ticks s p.now).1 := by
  rw [sweepsIn, running]

theorem sweepsIn_of_none (none : p.janitor = none) (act : Act) : p.sweepsIn act = [] := by
  rw [sweepsIn, none]

/-- While time moves a running janitor runs its schedule's ticks. They are kept closed, since
comparing what comes of them by evaluation does not end. -/
theorem exists_step_of_running (running : p.janitor = some (.running s))
    (moves : act.moves = true) :
    ∃ ticks, act.ticks s p.now = ticks ∧
      p.step act = ({ (p.runTicks ticks).1 with now := act.timeAfter p.now }, none,
        (p.runTicks ticks).2) := by
  refine ⟨_, rfl, ?_⟩
  -- `rewrite` and not `rw`, which would try to finish by evaluation before the ticks are closed.
  cases act with
  | sleep millis =>
    obtain ⟨ticks, closed⟩ : ∃ ticks, ticksUntil = ticks := ⟨_, rfl⟩
    rewrite [step, running, Act.ticks, closed]
    rfl
  | jump millis =>
    obtain ⟨ticks, closed⟩ : ∃ ticks, ticksAt = ticks := ⟨_, rfl⟩
    rewrite [step, running, Act.ticks, closed]
    rfl
  | _ => exact absurd moves Bool.false_ne_true

/-- While time moves the limiter is swept as often as the janitor's schedule has it. -/
theorem exists_step_of_moves (p : Premises) (moves : act.moves = true) :
    ∃ limiter events,
      p.step act = (⟨{ p.session with limiter }, act.timeAfter p.now,
        p.janitor.map (act.proceed p.now)⟩, none, events) ∧
      sweepTimes p.session.limiter p.session.now (p.sweepsIn act).length = (limiter, events) := by
  cases handle : p.janitor with
  | none =>
    rw [sweepsIn, handle]
    cases act with
    | sleep millis | jump millis => rw [step, handle]; exact ⟨_, _, rfl, rfl⟩
    | _ => exact absurd moves Bool.false_ne_true
  | some janitor =>
    cases janitor with
    | running s =>
      obtain ⟨ticks, ticks_eq, step⟩ := exists_step_of_running handle moves
      rw [step, sweepsIn_of_running handle, Option.map_some, Act.proceed, ticks_eq]
      exact ⟨_, _, rfl, rfl⟩
    | failed =>
      rw [sweepsIn, handle]
      cases act with
      | sleep millis | jump millis => rw [step, handle]; exact ⟨_, _, rfl, rfl⟩
      | _ => exact absurd moves Bool.false_ne_true

theorem now_step (p : Premises) (act : Act) : (p.step act).1.now = act.timeAfter p.now := by
  by_cases moves : act.moves = true
  · obtain ⟨limiter, events, step, -⟩ := p.exists_step_of_moves moves
    rw [step]
  cases act with
  | sleep millis | jump millis => exact absurd rfl moves
  | shutdown => obtain ⟨session, now, _ | _ | _⟩ := p <;> rfl
  | _ => rfl

theorem limits_step (p : Premises) (act : Act) :
    (p.step act).1.session.limiter.limits = p.session.limiter.limits := by
  by_cases moves : act.moves = true
  · obtain ⟨limiter, events, step, swept⟩ := p.exists_step_of_moves moves
    have kept := limits_sweepTimes p.session.limiter p.session.now (p.sweepsIn act).length
    rw [step]
    rw [swept] at kept
    exact kept
  cases act with
  | operate op => exact Session.limits_step p.session op
  | sleep millis | jump millis => exact absurd rfl moves
  | shutdown => obtain ⟨session, now, _ | _ | _⟩ := p <;> rfl
  | spawn | drop => rfl

/-- No refusal tells of a sweep. -/
theorem countP_events (client : String) (verdict : Verdict) :
    (verdict.events client).countP Event.tellsSweep = 0 := by
  cases verdict with
  | admitted => rfl
  | refused tier => cases tier <;> rfl

/-- Only while time moves are there sweeps. -/
theorem sweepsIn_of_not_moves (still : act.moves = false) : p.sweepsIn act = [] := by
  unfold sweepsIn
  split
  · cases act with
    | sleep millis | jump millis => exact absurd still Bool.true_eq_false.mp
    | _ => rfl
  · rfl

theorem countP_step (p : Premises) (act : Act) :
    (p.step act).2.2.countP Event.tellsSweep = (p.sweepsIn act).length := by
  by_cases moves : act.moves = true
  · obtain ⟨limiter, events, step, swept⟩ := p.exists_step_of_moves moves
    have count := countP_sweepTimes p.session.limiter p.session.now (p.sweepsIn act).length
    rw [step]
    rw [swept] at count
    exact count
  rw [sweepsIn_of_not_moves (Bool.eq_false_iff.2 moves)]
  cases act with
  | operate op =>
    dsimp only [step]
    split
    · next client verdict _ => exact countP_events client verdict
    · rfl
  | sleep millis | jump millis => exact absurd rfl moves
  | shutdown => obtain ⟨session, now, _ | _ | _⟩ := p <;> rfl
  | spawn | drop => rfl

theorem le_of_mem_sweepsIn (mem : t ∈ p.sweepsIn act) : t ≤ (p.step act).1.now := by
  rw [now_step]
  unfold sweepsIn at mem
  split at mem
  · exact Act.le_of_mem_ticks mem
  · exact absurd mem List.not_mem_nil

/-- A janitor that is not ended goes on with its schedule, and without one there is none until the
next is spawned. -/
theorem janitor_step (p : Premises) (kept : act.endsJanitor = false) :
    (p.step act).1.janitor = p.janitor.map (act.proceed p.now) := by
  by_cases moves : act.moves = true
  · obtain ⟨limiter, events, step, -⟩ := p.exists_step_of_moves moves
    rw [step]
  cases act with
  | operate op => obtain ⟨session, now, _ | _ | _⟩ := p <;> rfl
  | sleep millis | jump millis => exact absurd rfl moves
  | _ => exact absurd kept Bool.true_eq_false.mp

theorem running_step (running : p.janitor = some (.running s)) (kept : act.endsJanitor = false) :
    (p.step act).1.janitor = some (.running (act.ticks s p.now).2) := by
  rw [janitor_step p kept, running]
  rfl

theorem none_step (none : p.janitor = none) (other : act ≠ .spawn) :
    (p.step act).1.janitor = .none := by
  obtain ⟨session, now, janitor⟩ := p
  subst none
  cases act with
  | spawn => exact absurd rfl other
  | _ => rfl

/-- What ends a janitor leaves things as if there had been none. -/
theorem step_of_endsJanitor (p : Premises) (ends : act.endsJanitor = true) :
    (p.step act).1 = ({ p with janitor := none }.step act).1 ∧ p.sweepsIn act = [] := by
  obtain ⟨session, now, janitor⟩ := p
  cases act with
  | spawn | shutdown | drop => rcases janitor with _ | _ | _ <;> exact ⟨rfl, rfl⟩
  | _ => exact absurd ends Bool.false_eq_true.mp

/-! ### Many acts -/

variable {acts : List Act}

theorem limits_after (p : Premises) (acts : List Act) :
    (p.after acts).session.limiter.limits = p.session.limiter.limits := by
  induction acts generalizing p with
  | nil => rfl
  | cons act acts ih => exact (ih _).trans (p.limits_step act)

theorem now_le_after (p : Premises) (acts : List Act) : p.now ≤ (p.after acts).now := by
  induction acts generalizing p with
  | nil => exact Nat.le_refl _
  | cons act acts ih =>
    have here := act.le_timeAfter p.now
    rw [← now_step] at here
    exact here.trans (ih _)

/-- Every sweep is told of. -/
theorem countP_told (p : Premises) (acts : List Act) :
    (p.told acts).countP Event.tellsSweep = (p.sweeps acts).length := by
  induction acts generalizing p with
  | nil => rfl
  | cons act acts ih => rw [told, sweeps, List.countP_append, List.length_append, countP_step, ih]

theorem le_of_mem_sweeps (mem : t ∈ p.sweeps acts) : t ≤ (p.after acts).now := by
  induction acts generalizing p with
  | nil => exact absurd mem List.not_mem_nil
  | cons act acts ih =>
    obtain here | later := List.mem_append.1 mem
    · exact (le_of_mem_sweepsIn here).trans (now_le_after _ acts)
    · exact ih later

/-- The sweeps of a janitor that is not ended are ticks of its schedule. -/
theorem ticks_sweeps (running : p.janitor = some (.running s))
    (kept : ∀ act ∈ acts, act.endsJanitor = false) : ∃ s', Ticks s (p.sweeps acts) s' := by
  induction acts generalizing p s with
  | nil => exact ⟨s, .nil s⟩
  | cons act acts ih =>
    obtain ⟨here, kept⟩ := List.forall_mem_cons.1 kept
    obtain ⟨s', ticks⟩ := ih (running_step running here) kept
    rw [sweeps, sweepsIn_of_running running]
    exact ⟨s', (act.ticks_ticks s p.now).append ticks⟩

/-- While time moves from timer to timer they are punctual, and the next one stays ahead. -/
theorem punctual_sweeps (running : p.janitor = some (.running s)) (ahead : p.now < s.wakes)
    (kept : ∀ act ∈ acts, act.endsJanitor = false) (slow : ∀ act ∈ acts, act.isJump = false) :
    ∃ s', Punctual s (p.sweeps acts) s' ∧ (p.after acts).now < s'.wakes := by
  induction acts generalizing p s with
  | nil => exact ⟨s, .nil s, ahead⟩
  | cons act acts ih =>
    obtain ⟨here, kept⟩ := List.forall_mem_cons.1 kept
    obtain ⟨slowHere, slow⟩ := List.forall_mem_cons.1 slow
    obtain ⟨ticks, ahead⟩ := Act.punctual_ticks slowHere ahead
    rw [← now_step] at ahead
    obtain ⟨s', ticks', ahead⟩ := ih (running_step running here) ahead kept slow
    rw [sweeps, sweepsIn_of_running running]
    exact ⟨s', ticks.append ticks', ahead⟩

theorem sweeps_of_none (none : p.janitor = none) (idle : .spawn ∉ acts) : p.sweeps acts = [] := by
  induction acts generalizing p with
  | nil => rfl
  | cons act acts ih =>
    rw [List.mem_cons, not_or] at idle
    obtain ⟨other, idle⟩ := idle
    rw [sweeps, sweepsIn_of_none none, ih (none_step none (Ne.symm other)) idle]
    rfl

/-- What ends a janitor, and all that comes after, is as if there had been none. -/
theorem forget_of_endsJanitor (p : Premises) (ends : act.endsJanitor = true) (acts : List Act) :
    p.after (act :: acts) = { p with janitor := none }.after (act :: acts) ∧
      p.sweeps (act :: acts) = { p with janitor := none }.sweeps (act :: acts) := by
  obtain ⟨same, silent⟩ := p.step_of_endsJanitor ends
  have silent' : sweepsIn { p with janitor := none } act = [] := sweepsIn_of_none rfl act
  rw [after, after, sweeps, sweeps, same, silent, silent']
  exact ⟨rfl, rfl⟩

/-! ### The life of a janitor -/

namespace Reachable

variable {limits : Limits}

theorem limits_eq (reachable : p.Reachable limits) : p.session.limiter.limits = limits := by
  obtain ⟨limiter, now, start, acts, made, rfl⟩ := reachable
  obtain ⟨-, rfl⟩ := Limiter.new_eq_ok_iff.1 made
  exact limits_after _ acts

theorem period_pos (reachable : p.Reachable limits) : 0 < limits.sweepInterval.toNanos := by
  obtain ⟨limiter, now, start, acts, made, -⟩ := reachable
  have interval := (Limiter.new_eq_ok_iff.1 made).1.sweepInterval
  exact Nat.pos_of_ne_zero (mt Span.toNanos_eq_zero_iff.1 interval)

end Reachable

theorem janitor_spawn {limits : Limits} (reachable : p.Reachable limits)
    (started : start? p.now limits.sweepInterval.toNanos = some s) :
    (p.step .spawn).1.janitor = some (.running s) := by
  rw [← reachable.limits_eq] at started
  rw [step, started]

/-- A janitor that was spawned in time for its first sweep sweeps as its schedule has it as long as
it is not ended: never early, never more often than is called for, and, unless time is moved at
once, as often as is called for. What ends it leaves nothing of it behind. -/
theorem keeps_schedule {limits : Limits} {p : Premises} (reachable : p.Reachable limits)
    (fits : p.now + limits.sweepInterval.toNanos ≤ lastInstant) {life : List Act}
    (kept : ∀ act ∈ life, act.endsJanitor = false) :
    let period := limits.sweepInterval.toNanos
    let spawned := (p.step .spawn).1
    let later := spawned.after life
    (spawned.told life).countP Event.tellsSweep = (spawned.sweeps life).length ∧
    (∀ t ∈ spawned.sweeps life, t ≤ later.now) ∧
    Paced period p.now (spawned.sweeps life) ∧
    ((∀ act ∈ life, act.isJump = false) → ∀ t, nanosPerMilli ∣ t → t ≤ later.now →
      (spawned.sweeps life).countP (· ≤ t) = dueIn period (t - p.now)) ∧
    (period ≤ longestWait → ∀ elapsed, dueIn period elapsed = elapsed / period) ∧
    ∀ ending, ending.endsJanitor = true → ∀ acts,
      later.after (ending :: acts) = { later with janitor := none }.after (ending :: acts) ∧
      later.sweeps (ending :: acts) = { later with janitor := none }.sweeps (ending :: acts) ∧
      (later.told (ending :: acts)).countP Event.tellsSweep =
        (later.sweeps (ending :: acts)).length ∧
      (ending ≠ .spawn → .spawn ∉ acts → later.sweeps (ending :: acts) = []) := by
  intro period spawned later
  have pos : 0 < period := reachable.period_pos
  obtain ⟨s, started, next_eq, period_eq⟩ :
      ∃ s, start? p.now period = some s ∧ s.next = p.now + period ∧ s.period = period :=
    ⟨_, dif_pos ⟨pos, fits⟩, rfl, rfl⟩
  have running := janitor_spawn reachable started
  have now_eq : spawned.now = p.now := now_step p .spawn
  obtain ⟨s', ticks⟩ := ticks_sweeps running kept
  refine ⟨countP_told _ _, fun t mem => le_of_mem_sweeps mem, ⟨?_, ?_⟩, ?_, dueIn_eq_div pos, ?_⟩
  · intro k lt
    rw [← next_eq, ← period_eq]
    exact ticks.le_getElem lt
  · intro t
    rw [← dueBy_of_start? started]
    exact ticks.countP_le_dueBy t
  · intro slow t whole past
    have ahead : spawned.now < s.wakes := by
      have := le_timerFor s.next
      unfold wakes
      omega
    obtain ⟨s'', punctual, ahead⟩ := punctual_sweeps running ahead kept slow
    -- The next sweep's timer lies ahead, so that by now nothing is called for any more.
    have none : s''.dueBy t = 0 := by
      rw [dueBy_eq_zero_iff, ← Nat.not_le, ← timerFor_le_iff whole, Nat.not_le]
      exact past.trans_lt ahead
    rw [← dueBy_of_start? started, ← punctual.countP_add_dueBy whole, none, Nat.add_zero]
  · intro ending ends acts
    obtain ⟨after_eq, sweeps_eq⟩ := later.forget_of_endsJanitor ends acts
    refine ⟨after_eq, sweeps_eq, countP_told _ _, fun other idle => ?_⟩
    rw [sweeps_eq]
    refine sweeps_of_none rfl ?_
    rw [List.mem_cons, not_or]
    exact ⟨other.symm, idle⟩

/-! ### Two runtimes -/

/-- Premises at the start of the runtime's time, without janitor. -/
def fresh (limits : Limits) : Premises := ⟨⟨.start limits .base, .base⟩, 0, none⟩

theorem reachable_fresh {limits : Limits} (meaningful : limits.Meaningful) :
    (fresh limits).Reachable limits :=
  ⟨_, _, 0, [], Limiter.new_eq_ok_iff.2 ⟨meaningful, rfl⟩, rfl⟩

/-- A janitor that sweeps every two seconds misses three sweeps while time is moved at once. -/
def interrupted : List Act := [.sleep 2500, .operate (.allow "a"), .jump 7000, .sleep 2500]

theorem interrupted_keeps_schedule :
    let p := fresh .modest
    let spawned := (p.step .spawn).1
    let later := spawned.after interrupted
    p.Reachable .modest ∧ p.now + Limits.modest.sweepInterval.toNanos ≤ lastInstant ∧
    (∀ act ∈ interrupted, act.endsJanitor = false) ∧
    spawned.sweeps interrupted = [2000000000, 9500000000, 11500000000] ∧
    (spawned.told interrupted).countP Event.tellsSweep = 3 ∧
    Paced 2000000000 0 (spawned.sweeps interrupted) ∧
    (spawned.sweeps [.sleep 2500, .sleep 2500]).countP (· ≤ 4000000000) = 2 ∧
    later.sweeps [.spawn, .sleep 2000] = [14000000000] ∧
    later.sweeps [.shutdown, .operate .sweep, .sleep 4000] = [] := by
  intro p spawned later
  have reachable : p.Reachable .modest := reachable_fresh Limits.meaningful_modest
  have fits : p.now + Limits.modest.sweepInterval.toNanos ≤ lastInstant := by decide +kernel
  have kept : ∀ act ∈ interrupted, act.endsJanitor = false := by decide
  have sweeps_eq : spawned.sweeps interrupted = [2000000000, 9500000000, 11500000000] := by
    decide +kernel
  obtain ⟨told, -, paced, -, -, ended⟩ := keeps_schedule reachable fits kept
  have kept' : ∀ act ∈ [Act.sleep 2500, .sleep 2500], act.endsJanitor = false := by decide
  obtain ⟨-, -, -, punctual, short, -⟩ := keeps_schedule reachable fits kept'
  refine ⟨reachable, fits, kept, sweeps_eq, ?_, paced, ?_, by decide +kernel, ?_⟩
  · rw [told, sweeps_eq]
    rfl
  · rw [punctual (by decide) 4000000000 (by decide) (by decide +kernel), short (by decide)]
    decide +kernel
  · exact (ended .shutdown rfl [.operate .sweep, .sleep 4000]).2.2.2 (by decide) (by decide)

/-- Modest limits, but swept every sixty years. -/
def seldom : Limits := { Limits.modest with sweepInterval := .ofSeconds 1892160000 }

/-- The second sweep comes thirty years after the first one. -/
theorem second_sweep_early :
    let p := fresh seldom
    let period := seldom.sweepInterval.toNanos
    let sweeps := (p.step .spawn).1.sweeps (List.replicate 3 (.sleep 946080000000))
    p.Reachable seldom ∧ p.now + period ≤ lastInstant ∧
    sweeps = [1892160000 * nanosPerSecond, 2838240000 * nanosPerSecond] ∧
    ¬(∀ k, ∀ lt : k < sweeps.length, p.now + (k + 1) * period ≤ sweeps[k]) ∧
    ¬(∀ t, sweeps.countP (· ≤ t) ≤ (t - p.now) / period) := by
  intro p period sweeps
  have sweeps_eq : sweeps = [1892160000 * nanosPerSecond, 2838240000 * nanosPerSecond] := by
    decide +kernel
  refine ⟨reachable_fresh (by constructor <;> decide), by decide +kernel, sweeps_eq, ?_, ?_⟩
  · intro paced
    have second := paced 1 (by rw [sweeps_eq]; decide)
    simp only [sweeps_eq, List.getElem_cons_succ, List.getElem_cons_zero] at second
    exact absurd second (by decide +kernel)
  · intro paced
    have two := paced (2838240000 * nanosPerSecond)
    rw [sweeps_eq] at two
    exact absurd two (by decide +kernel)

end Premises

end Floodgate
