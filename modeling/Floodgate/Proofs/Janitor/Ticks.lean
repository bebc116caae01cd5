import Mathlib.Order.Nat
import Mathlib.Tactic.SplitIfs
import Floodgate.Janitor.Schedule

/-!
# When ticks come

A tick is never early, and the next one is at least a wait away from the time that the schedule had
for it, so the schedule itself bounds how many ticks there are at any time. Ticks that are run when
their timers fire are less than a millisecond late. They keep the schedule, and at whole
milliseconds none is missing.

## Main definitions

* `Schedule.dueBy`, `Schedule.dueIn` — how many ticks a schedule calls for
* `Schedule.Ticks` — ticks none of which is early
* `Schedule.Punctual` — ticks that are run when their timers fire

## Main results

* `ticks_ticksAt`, `ticks_ticksUntil` — no tick is early
* `Ticks.le_getElem`, `Ticks.countP_le_dueBy` — the schedule bounds the times of ticks and their
  number
* `Punctual.countP_add_dueBy` — punctual ticks are all that the schedule calls for
-/

namespace Floodgate

namespace Schedule

variable {s s' s'' : Schedule} {ts us : List ℕ} {t now target period k : ℕ}

/-- How many ticks a schedule calls for until an instant: the next one, and one more after every
wait. -/
def dueBy (s : Schedule) (t : ℕ) : ℕ :=
  if t < s.next then 0 else (t - s.next) / waited s.period + 1

/-- How many ticks a schedule calls for in some time after its start. -/
def dueIn (period elapsed : ℕ) : ℕ :=
  if elapsed < period then 0 else (elapsed - period) / waited period + 1

/-- Ticks that take one schedule to another, each no earlier than the schedule has it. -/
inductive Ticks : Schedule → List ℕ → Schedule → Prop
  | nil (s : Schedule) : Ticks s [] s
  | cons {s s' : Schedule} {t : ℕ} {ts : List ℕ} (due : s.next ≤ t)
      (rest : Ticks (s.after t) ts s') : Ticks s (t :: ts) s'

/-- Ticks that take one schedule to another, each run when its timer fires. -/
inductive Punctual : Schedule → List ℕ → Schedule → Prop
  | nil (s : Schedule) : Punctual s [] s
  | cons {s s' : Schedule} {ts : List ℕ} (rest : Punctual (s.after s.wakes) ts s') :
      Punctual s (s.wakes :: ts) s'

/-! ### What a schedule calls for -/

theorem succ_le_dueBy_iff : k + 1 ≤ s.dueBy t ↔ s.next + k * waited s.period ≤ t := by
  rw [dueBy]
  split_ifs with early
  · omega
  · rw [Nat.add_le_add_iff_right, Nat.le_div_iff_mul_le (waited_pos s.period_pos)]
    omega

theorem dueBy_eq_zero_iff : s.dueBy t = 0 ↔ t < s.next := by
  have first := succ_le_dueBy_iff (s := s) (t := t) (k := 0)
  omega

theorem dueBy_of_start? (started : start? now period = some s) :
    s.dueBy t = dueIn period (t - now) := by
  unfold start? at started
  split_ifs at started with fits
  obtain rfl := Option.some.inj started
  have early : t < now + period ↔ t - now < period := by omega
  simp only [dueBy, dueIn, early, Nat.sub_sub]

/-- Periods that a timer can wait for are counted whole. -/
theorem dueIn_eq_div (pos : 0 < period) (short : period ≤ longestWait) (elapsed : ℕ) :
    dueIn period elapsed = elapsed / period := by
  rw [dueIn, waited, Nat.min_eq_left short]
  split_ifs with early
  · exact (Nat.div_eq_of_lt early).symm
  · exact (Nat.div_eq_sub_div pos (Nat.le_of_not_lt early)).symm

/-! ### After a tick -/

theorem next_add_waited_le (s : Schedule) (t : ℕ) :
    s.next + waited s.period ≤ (s.after t).next := by
  unfold after; dsimp only; split_ifs <;> omega

/-- A timer fires less than a millisecond late, which keeps the schedule. -/
theorem next_after_wakes (s : Schedule) : (s.after s.wakes).next = s.next + waited s.period := by
  have kept : ¬ tolerance < s.wakes - s.next := by
    unfold tolerance wakes timerFor nanosPerMilli; omega
  rw [after, if_neg kept]

/-- A tick uses up one of those that are called for, if there are any. -/
theorem dueBy_after_le (s : Schedule) (now t : ℕ) : (s.after now).dueBy t ≤ s.dueBy t - 1 := by
  cases due : (s.after now).dueBy t with
  | zero => exact Nat.zero_le _
  | succ k =>
    -- What is called for after the tick lies a wait further on before it.
    have reached := succ_le_dueBy_iff.1 due.ge
    rw [period_after] at reached
    have later := s.next_add_waited_le now
    refine Nat.le_sub_one_of_lt (succ_le_dueBy_iff.2 ?_)
    rw [Nat.succ_mul]
    omega

/-- A tick that keeps the schedule uses up just one. -/
theorem dueBy_after_wakes (s : Schedule) (t : ℕ) :
    (s.after s.wakes).dueBy t = s.dueBy t - 1 := by
  refine Nat.le_antisymm (s.dueBy_after_le _ t) ?_
  cases due : s.dueBy t - 1 with
  | zero => exact Nat.zero_le _
  | succ k =>
    have reached : s.next + (k + 1) * waited s.period ≤ t := succ_le_dueBy_iff.1 (by omega)
    rw [succ_le_dueBy_iff, period_after, next_after_wakes]
    rw [Nat.succ_mul] at reached
    omega

/-! ### Ticks that are not early -/

namespace Ticks

theorem append (ticks : Ticks s ts s') (ticks' : Ticks s' us s'') : Ticks s (ts ++ us) s'' := by
  induction ticks with
  | nil s => exact ticks'
  | cons due rest ih => exact .cons due (ih ticks')

theorem le_getElem (ticks : Ticks s ts s') (lt : k < ts.length) :
    s.next + k * waited s.period ≤ ts[k] := by
  induction ticks generalizing k with
  | nil s => exact absurd lt (Nat.not_lt_zero k)
  | @cons s s' t ts due rest ih =>
    cases k with
    | zero => simpa using due
    | succ k =>
      have later := s.next_add_waited_le t
      have bound := ih (Nat.lt_of_succ_lt_succ lt)
      rw [period_after] at bound
      rw [List.getElem_cons_succ, Nat.succ_mul]
      omega

theorem countP_le_dueBy (ticks : Ticks s ts s') (t : ℕ) : ts.countP (· ≤ t) ≤ s.dueBy t := by
  induction ticks with
  | nil s => exact Nat.zero_le _
  | @cons s s' tick ts due rest ih =>
    have used := s.dueBy_after_le tick t
    rw [List.countP_cons]
    -- A tick that counts was called for, and used up one.
    split_ifs with past
    · have first : 0 + 1 ≤ s.dueBy t := succ_le_dueBy_iff.2 (by
        rw [Nat.zero_mul]; exact due.trans (of_decide_eq_true past))
      omega
    · omega

end Ticks

theorem ticks_ticksAt (s : Schedule) (now : ℕ) : Ticks s (s.ticksAt now).1 (s.ticksAt now).2 := by
  fun_induction ticksAt s now with
  | case1 s due ticks s' rest ih =>
    rw [rest] at ih
    exact .cons ((le_timerFor s.next).trans due) ih
  | case2 s due => exact .nil s

theorem ticks_ticksUntil (s : Schedule) (now target : ℕ) :
    Ticks s (s.ticksUntil now target).1 (s.ticksUntil now target).2 := by
  fun_induction ticksUntil s now target with
  | case1 s now due tick ticks s' rest ih =>
    rw [rest] at ih
    exact .cons ((le_timerFor s.next).trans (Nat.le_max_right now s.wakes)) ih
  | case2 s now due => exact .nil s

theorem eq_of_mem_ticksAt (mem : t ∈ (s.ticksAt now).1) : t = now := by
  fun_induction ticksAt s now with
  | case1 s due ticks s' rest ih =>
    rw [rest] at ih
    obtain here | later := List.mem_cons.1 mem
    · exact here
    · exact ih later
  | case2 s due => exact absurd mem List.not_mem_nil

theorem le_of_mem_ticksUntil (le : now ≤ target) (mem : t ∈ (s.ticksUntil now target).1) :
    t ≤ target := by
  fun_induction ticksUntil s now target with
  | case1 s now due tick ticks s' rest ih =>
    rw [rest] at ih
    have here : tick ≤ target := Nat.max_le.2 ⟨le, due⟩
    obtain rfl | later := List.mem_cons.1 mem
    · exact here
    · exact ih here later
  | case2 s now due => exact absurd mem List.not_mem_nil

/-! ### Ticks that are run when their timers fire -/

theorem timerFor_le_iff (whole : nanosPerMilli ∣ t) : timerFor k ≤ t ↔ k ≤ t := by
  obtain ⟨millis, rfl⟩ := whole
  unfold timerFor nanosPerMilli
  omega

theorem timerFor_le_timerFor (le : k ≤ t) : timerFor k ≤ timerFor t :=
  Nat.mul_le_mul_right _ (Nat.div_le_div_right (Nat.add_le_add_right le _))

namespace Punctual

theorem append (ticks : Punctual s ts s') (ticks' : Punctual s' us s'') :
    Punctual s (ts ++ us) s'' := by
  induction ticks with
  | nil s => exact ticks'
  | cons rest ih => exact .cons (ih ticks')

/-- At a whole millisecond a tick is run if and only if it is called for. -/
theorem countP_add_dueBy (ticks : Punctual s ts s') (whole : nanosPerMilli ∣ t) :
    ts.countP (· ≤ t) + s'.dueBy t = s.dueBy t := by
  induction ticks with
  | nil s => exact Nat.zero_add _
  | @cons s s' ts rest ih =>
    have due : s.wakes ≤ t ↔ s.next ≤ t := timerFor_le_iff whole
    have used := s.dueBy_after_wakes t
    have none := dueBy_eq_zero_iff (s := s) (t := t)
    rw [List.countP_cons]
    split_ifs with past
    · have := due.1 (of_decide_eq_true past)
      omega
    · have := mt due.2 (fun le => past (decide_eq_true le))
      omega

end Punctual

/-- Once the timer of the next tick is not in the past, ticks are punctual. -/
theorem punctual_ticksUntil (ahead : now ≤ s.wakes) :
    Punctual s (s.ticksUntil now target).1 (s.ticksUntil now target).2 := by
  fun_induction ticksUntil s now target with
  | case1 s now due tick ticks s' rest ih =>
    have onTime : tick = s.wakes := Nat.max_eq_right ahead
    rw [rest] at ih
    rw [onTime] at ih ⊢
    refine .cons (ih ?_)
    exact timerFor_le_timerFor ((Nat.le_add_right _ _).trans (s.next_add_waited_le _))
  | case2 s now due => exact .nil s

theorem lt_wakes_ticksUntil (s : Schedule) (now target : ℕ) :
    target < (s.ticksUntil now target).2.wakes := by
  fun_induction ticksUntil s now target with
  | case1 s now due tick ticks s' rest ih =>
    rw [rest] at ih
    exact ih
  | case2 s now due => exact Nat.lt_of_not_le due

end Schedule

end Floodgate
