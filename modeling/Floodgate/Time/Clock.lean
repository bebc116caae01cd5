import Floodgate.Time.Span
import Floodgate.Binary64.Arithmetic

/-!
# Instants and clocks

An instant is a count of nanoseconds since a base instant, held in 64 bits. A manual clock stands
still until it is moved; moved past the last instant it starts over at the base, so its time can
go back.

## Main definitions

* `Instant.since` — the nanoseconds from one instant to another, none when time went back
* `Instant.advance` — the instant a span later, in 64 bits
* `secondsOfNanos` — nanoseconds as a binary64 number of seconds
* `ClockFamily` — a manual clock behind any number of handles
-/

namespace Floodgate

/-- A point in time, in nanoseconds since the base. -/
structure Instant where
  nanos : UInt64
  deriving DecidableEq

namespace Instant

/-- The base instant. -/
def base : Instant := ⟨0⟩

/-- Nanoseconds from `earlier` to `now`; zero when `now` is the earlier one. -/
def since (now earlier : Instant) : Nat := now.nanos.toNat - earlier.nanos.toNat

/-- The instant a span later. Spans of more than 64 bits of nanoseconds count as the longest one
that fits, and the sum keeps its low 64 bits. -/
def advance (now : Instant) (d : Span) : Instant :=
  ⟨now.nanos + UInt64.ofNat (min d.toNanos (2 ^ 64 - 1))⟩

theorem since_self (t : Instant) : t.since t = 0 := Nat.sub_self _

end Instant

/-- Nanoseconds as seconds: the whole seconds and the rest are rounded apart, then added. -/
def secondsOfNanos (n : Nat) : Binary64 :=
  Binary64.ofNat (n / nanosPerSecond) + Binary64.ofRatio (n % nanosPerSecond) nanosPerSecond

/-- One manual clock behind several handles: all of them read the same instant. -/
structure ClockFamily where
  now : Instant
  handles : Nat

namespace ClockFamily

/-- A clock at the base instant with one handle. -/
def new : ClockFamily := ⟨.base, 1⟩

/-- Move the clock through any of its handles. -/
def advance (c : ClockFamily) (d : Span) : ClockFamily := { c with now := c.now.advance d }

/-- Make another handle. -/
def clone (c : ClockFamily) : ClockFamily := { c with handles := c.handles + 1 }

/-- What every handle reads. -/
def readings (c : ClockFamily) : List Instant := List.replicate c.handles c.now

end ClockFamily

end Floodgate
