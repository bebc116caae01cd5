import Floodgate.Power

/-!
# Spans of time

A span is a count of whole seconds below `2 ^ 64` and of nanoseconds below one second.

## Main definitions

* `Span` — a length of time
* `Span.toNanos` — the whole span in nanoseconds
* `Span.carry?` — seconds and any number of nanoseconds, brought to that form
* `waited` — how long a timer waits
-/

namespace Floodgate

/-- How many nanoseconds make a second. -/
def nanosPerSecond : Nat := 1000000000

/-- How many nanoseconds make a millisecond. -/
def nanosPerMilli : Nat := 1000000

/-- A length of time. -/
structure Span where
  seconds : UInt64
  nanos : Nat
  nanos_lt : nanos < nanosPerSecond
  deriving DecidableEq

namespace Span

/-- No time at all. -/
def zero : Span := ⟨0, 0, by decide⟩

/-- A whole number of seconds. -/
def ofSeconds (s : UInt64) : Span := ⟨s, 0, by decide⟩

/-- The span in nanoseconds. -/
def toNanos (d : Span) : Nat := d.seconds.toNat * nanosPerSecond + d.nanos

/-- The span of `s` seconds and `n` nanoseconds, whole seconds among the nanoseconds carried;
`none` when the seconds do not fit. -/
def carry? (s n : Nat) : Option Span :=
  if s + n / nanosPerSecond < 2 ^ 64 then
    some ⟨UInt64.ofNat (s + n / nanosPerSecond), n % nanosPerSecond, Nat.mod_lt _ (by decide)⟩
  else none

theorem toNanos_zero : zero.toNanos = 0 := rfl

theorem toNanos_eq_zero_iff {d : Span} : d.toNanos = 0 ↔ d = zero := by
  constructor
  · intro h
    obtain ⟨s, n, hn⟩ := d
    simp only [toNanos, nanosPerSecond] at h
    have hs : s = 0 := UInt64.toNat_inj.1 (by simp; omega)
    have : n = 0 := by omega
    subst hs this; rfl
  · rintro rfl; rfl

theorem toNanos_of_carry? {s n : Nat} {d : Span} (h : carry? s n = some d) :
    d.toNanos = s * nanosPerSecond + n := by
  unfold carry? at h
  split at h
  · next hlt =>
    obtain rfl := Option.some.inj h
    simp only [toNanos, UInt64.toNat_ofNat']
    rw [Nat.mod_eq_of_lt hlt, Nat.add_mul, Nat.add_assoc, Nat.mul_comm (n / nanosPerSecond),
      Nat.div_add_mod]
  · simp at h

end Span

/-! ### Waiting -/

/-- The longest that a timer waits: thirty years, in nanoseconds. -/
def longestWait : Nat := 30 * 365 * 86400 * nanosPerSecond

/-- How long a timer waits that is to wait for some nanoseconds. -/
def waited (nanos : Nat) : Nat := min nanos longestWait

theorem waited_pos {nanos : Nat} (h : 0 < nanos) : 0 < waited nanos :=
  Nat.lt_min.2 ⟨h, by decide⟩

end Floodgate
