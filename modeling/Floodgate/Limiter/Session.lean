import Floodgate.Limiter.Basic

/-!
# Sessions of a limiter on a manual clock

A limiter together with the clock it reads, driven by operations one after the other. Handles of
a limiter share its state, so making another one changes nothing.

## Main definitions

* `Session` — a limiter and the time its clock shows
* `Operation`, `Outcome` — what can be done, and what each operation answers
* `Session.step`, `Session.run` — one operation, and a whole list of them
-/

namespace Floodgate

/-- A limiter and what its clock reads. -/
structure Session where
  limiter : Limiter
  now : Instant

/-- An operation on a limiter or its clock. -/
inductive Operation where
  | allow (client : String)
  | advance (by_ : Span)
  | sweep
  | stats
  | clone
  deriving DecidableEq

/-- What an operation answers. -/
inductive Outcome where
  | decided (client : String) (verdict : Verdict)
  | moved (now : Instant)
  | swept (evicted : Nat)
  | counted (stats : Stats)
  | cloned
  deriving DecidableEq

namespace Session

/-- A session whose clock stands at the base instant. -/
def new (limits : Limits) : Except InvalidSetting Session :=
  (Limiter.new limits .base).map (⟨·, .base⟩)

/-- Do one operation. -/
def step (s : Session) : Operation → Session × Outcome
  | .allow client =>
    let (verdict, limiter) := s.limiter.charge s.now client
    ({ s with limiter }, .decided client verdict)
  | .advance d =>
    let now := s.now.advance d
    ({ s with now }, .moved now)
  | .sweep =>
    let (evicted, limiter) := s.limiter.sweep s.now
    ({ s with limiter }, .swept evicted)
  | .stats => (s, .counted (s.limiter.stats s.now))
  | .clone => (s, .cloned)

/-- Do operations in order; the outcomes come in the same order. -/
def run (s : Session) : List Operation → Session × List Outcome
  | [] => (s, [])
  | op :: ops =>
    let (s, outcome) := s.step op
    let (s, outcomes) := run s ops
    (s, outcome :: outcomes)

theorem run_append (s : Session) (ops ops' : List Operation) :
    s.run (ops ++ ops') =
      (((s.run ops).1.run ops').1, (s.run ops).2 ++ ((s.run ops).1.run ops').2) := by
  induction ops generalizing s with
  | nil => rfl
  | cons op ops ih => simp [run, ih]

end Session

end Floodgate
