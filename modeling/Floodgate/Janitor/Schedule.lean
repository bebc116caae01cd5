import Floodgate.Time.Span

/-!
# Schedules of a periodic task

A task that runs once a period, on a clock whose timers fire at whole milliseconds. A tick that
comes at most five milliseconds late keeps the schedule; a later one starts the schedule anew,
one period after itself, so ticks that were missed are not made up for. Only the first tick may be
further away than a timer waits.

## Main definitions

* `Schedule` — a period and the instant of the next tick
* `Schedule.ticksAt` — the ticks due at one instant
* `Schedule.ticksUntil` — the ticks while time moves on from timer to timer

## Main results

* `next_lt_next_after` — every tick moves the next one further away
-/

namespace Floodgate

/-- A periodic task; all times are in nanoseconds of the clock it runs on. -/
structure Schedule where
  period : Nat
  period_pos : 0 < period
  next : Nat

namespace Schedule

/-- How late a tick may come and still keep the schedule. -/
def tolerance : Nat := 5 * nanosPerMilli

/-- The clock's last instant. -/
def lastInstant : Nat := 2 ^ 63 * nanosPerSecond - 1

/-- A schedule whose first tick is one period from `now`; none when the clock cannot hold that
instant, or for an empty period. -/
def start? (now period : Nat) : Option Schedule :=
  if h : 0 < period ∧ now + period ≤ lastInstant then some ⟨period, h.1, now + period⟩ else none

/-- The whole millisecond at which a timer set for `t` fires. -/
def timerFor (t : Nat) : Nat := (t + (nanosPerMilli - 1)) / nanosPerMilli * nanosPerMilli

/-- When the next tick's timer fires. -/
def wakes (s : Schedule) : Nat := timerFor s.next

/-- The schedule after the tick that is run at `now`. -/
def after (s : Schedule) (now : Nat) : Schedule :=
  let start := if tolerance < now - s.next then now else s.next
  { s with next := start + waited s.period }

theorem period_after (s : Schedule) (now : Nat) : (s.after now).period = s.period := rfl

theorem le_timerFor (t : Nat) : t ≤ timerFor t := by
  unfold timerFor nanosPerMilli; omega

theorem next_lt_next_after (s : Schedule) (now : Nat) : s.next < (s.after now).next := by
  have := waited_pos s.period_pos
  unfold after; dsimp only; split <;> omega

/-- The ticks that are run when time stands at `now`, each as the instant it is run at, and the
schedule after them. -/
def ticksAt (s : Schedule) (now : Nat) : List Nat × Schedule :=
  if _due : s.wakes ≤ now then
    let (ticks, s') := (s.after now).ticksAt now
    (now :: ticks, s')
  else ([], s)
termination_by now + 1 - s.next
decreasing_by
  exact Nat.sub_lt_sub_left (Nat.lt_succ_of_le (Nat.le_trans (le_timerFor s.next) _due))
    (next_lt_next_after s now)

/-- The ticks that are run while time moves from `now` to `target`, and the schedule after them.
Each is run at the instant its timer fires, or at `now` when that is later. -/
def ticksUntil (s : Schedule) (now target : Nat) : List Nat × Schedule :=
  if _due : s.wakes ≤ target then
    let tick := max now s.wakes
    let (ticks, s') := (s.after tick).ticksUntil tick target
    (tick :: ticks, s')
  else ([], s)
termination_by target + 1 - s.next
decreasing_by
  exact Nat.sub_lt_sub_left (Nat.lt_succ_of_le (Nat.le_trans (le_timerFor s.next) _due))
    (next_lt_next_after s (max now s.wakes))

end Schedule

end Floodgate
