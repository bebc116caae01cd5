import Floodgate.Proofs.Janitor.Sweeps

/-!
# How long a janitor lives

Nothing that is done on the premises kills a janitor, short of ending it. Its life is decided when
it is spawned: if the runtime's clock can hold the instant of its first tick it lives until it is
ended, and if not it is dead from the start, which nobody is told of before it is told to stop.
Accepted limits may have a sweep interval for which it is dead: nothing is swept then, however long
the limiter is at work.

## Main results

* `Premises.isRunning_after` — what does not end a janitor does not change whether it lives
* `Premises.isRunning_spawn` — whether it lives is decided by the clock and the sweep interval
* `Premises.lives_iff_fits` — when a janitor lives, and what comes of telling it to stop
* `Premises.overlong_janitor_dies` — accepted limits whose janitor does not live
-/

namespace Floodgate

open Schedule

namespace Premises

variable {p : Premises} {act : Act} {acts : List Act} {limits : Limits}

/-! ### Until it is ended -/

theorem isRunning_step (p : Premises) (kept : act.endsJanitor = false) :
    (p.step act).1.isRunning = p.isRunning := by
  rw [isRunning, janitor_step p kept, isRunning, Option.map_map]
  congr 1
  funext janitor
  cases janitor <;> rfl

theorem isRunning_after (p : Premises) (kept : ∀ act ∈ acts, act.endsJanitor = false) :
    (p.after acts).isRunning = p.isRunning := by
  induction acts generalizing p with
  | nil => rfl
  | cons act acts ih =>
    obtain ⟨here, kept⟩ := List.forall_mem_cons.1 kept
    exact (ih _ kept).trans (isRunning_step p here)

/-- A janitor that does not live does not sweep. -/
theorem sweepsIn_of_not_running (dead : p.isRunning ≠ some true) (act : Act) :
    p.sweepsIn act = [] := by
  unfold sweepsIn
  split
  · next s running =>
    rw [isRunning, running] at dead
    exact absurd rfl dead
  · rfl

theorem sweeps_of_not_running (dead : p.isRunning ≠ some true)
    (kept : ∀ act ∈ acts, act.endsJanitor = false) : p.sweeps acts = [] := by
  induction acts generalizing p with
  | nil => rfl
  | cons act acts ih =>
    obtain ⟨here, kept⟩ := List.forall_mem_cons.1 kept
    have still : (p.step act).1.isRunning ≠ some true := by rwa [isRunning_step p here]
    rw [sweeps, sweepsIn_of_not_running dead, ih still kept]
    rfl

/-! ### Spawning and stopping -/

/-- A schedule starts if and only if the clock can hold its first tick. -/
theorem isRunning_spawn (reachable : p.Reachable limits) :
    (p.step .spawn).1.isRunning =
      some (decide (p.now + limits.sweepInterval.toNanos ≤ lastInstant)) := by
  have pos := reachable.period_pos
  rw [isRunning, step, reachable.limits_eq, start?]
  by_cases fits : p.now + limits.sweepInterval.toNanos ≤ lastInstant
  · rw [dif_pos ⟨pos, fits⟩, decide_eq_true fits]
    rfl
  · rw [dif_neg (fun started => fits started.2), decide_eq_false fits]
    rfl

/-- What is told when a janitor is told to stop. -/
theorem shutdown_eq {lives : Bool} (handle : p.isRunning = some lives) :
    p.step .shutdown =
      ({ p with janitor := none }, none, [if lives then stoppedEvent else abnormalEvent]) := by
  obtain ⟨session, now, _ | _ | _⟩ := p
  · exact nomatch handle
  · cases handle
    rfl
  · cases handle
    rfl

/-! ### A whole life -/

/-- From its spawning until it is ended, a janitor lives if and only if the runtime's clock can hold
the instant of its first tick. If so, it stops in good order when it is told to; if not, it never
sweeps, and is found dead then. -/
theorem lives_iff_fits (reachable : p.Reachable limits) {life : List Act}
    (kept : ∀ act ∈ life, act.endsJanitor = false) :
    let fits := p.now + limits.sweepInterval.toNanos ≤ lastInstant
    let spawned := (p.step .spawn).1
    let later := spawned.after life
    later.isRunning = some (decide fits) ∧
    (fits → (later.step .shutdown).2.2 = [stoppedEvent]) ∧
    (¬fits → spawned.sweeps life = [] ∧ (later.step .shutdown).2.2 = [abnormalEvent]) ∧
    (later.step .shutdown).1.isRunning = none := by
  intro fits spawned later
  have spawned_eq : spawned.isRunning = some (decide fits) := isRunning_spawn reachable
  have later_eq : later.isRunning = some (decide fits) :=
    (isRunning_after spawned kept).trans spawned_eq
  have stop := shutdown_eq later_eq
  refine ⟨later_eq, fun fit => ?_, fun unfit => ⟨?_, ?_⟩, ?_⟩
  · rw [stop, decide_eq_true fit]
    rfl
  · refine sweeps_of_not_running ?_ kept
    rw [spawned_eq, decide_eq_false unfit]
    exact fun same => Bool.false_ne_true (Option.some.inj same)
  · rw [stop, decide_eq_false unfit]
    rfl
  · rw [stop]
    rfl

/-- Modest limits leave a janitor alive for a million years, whatever is done in them. -/
theorem modest_janitor_lives :
    let p := (fresh .modest).after [.sleep 1500, .operate (.allow "a")]
    let life := [.jump 31536000000000000, .operate .sweep, .sleep 2500]
    p.Reachable .modest ∧ p.now + Limits.modest.sweepInterval.toNanos ≤ lastInstant ∧
    (∀ act ∈ life, Act.endsJanitor act = false) ∧
    ((p.step .spawn).1.after life).isRunning = some true ∧
    (((p.step .spawn).1.after life).step .shutdown).2.2 = [stoppedEvent] := by
  intro p life
  have reachable : p.Reachable .modest :=
    ⟨_, _, 0, _, Limiter.new_modest .base, rfl⟩
  have fits : p.now + Limits.modest.sweepInterval.toNanos ≤ lastInstant := by decide +kernel
  have kept : ∀ act ∈ life, act.endsJanitor = false := by decide
  obtain ⟨lives, stops, -, -⟩ := lives_iff_fits reachable kept
  rw [decide_eq_true fits] at lives
  exact ⟨reachable, fits, kept, lives, stops fits⟩

/-- Modest limits, but swept after the longest span there is. -/
def overlong : Limits := { Limits.modest with sweepInterval := .longest }

/-- Limits that are accepted, and a janitor that is dead as soon as it is spawned. -/
theorem overlong_janitor_dies :
    let p := fresh overlong
    let spawned := (p.step .spawn).1
    overlong.validated = .ok overlong ∧ p.Reachable overlong ∧ spawned.isRunning = some false ∧
    (spawned.step .shutdown).2.2 = [abnormalEvent] ∧
    ¬(∀ limits p, Reachable limits p → ∀ life : List Act,
      (∀ act ∈ life, act.endsJanitor = false) →
      ((p.step .spawn).1.after life).isRunning = some true ∧
      (((p.step .spawn).1.after life).step .shutdown).2.2 = [stoppedEvent]) := by
  intro p spawned
  have meaningful : overlong.Meaningful := by constructor <;> decide
  have reachable : p.Reachable overlong := reachable_fresh meaningful
  have dead : spawned.isRunning = some false := by decide +kernel
  refine ⟨Limits.validated_eq_ok_iff.2 ⟨rfl, meaningful⟩, reachable, dead, ?_, fun all => ?_⟩
  · rw [shutdown_eq dead]
    rfl
  · obtain ⟨alive, -⟩ := all overlong p reachable [] (List.forall_mem_nil _)
    exact absurd (dead.symm.trans alive) (by decide)

end Premises

end Floodgate
