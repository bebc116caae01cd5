import Floodgate.Binary64.Arithmetic
import Floodgate.Time.Span
import Floodgate.Validation

/-!
# Limits

The settings of a limiter: the rate and the burst of each client's bucket and of the global one,
and how often idle buckets are swept.

## Main definitions

* `Limits` — the settings
* `Limits.standard` — the settings unless others are given
* `Limits.Meaningful` — rates are finite and positive, bursts and the interval are positive
* `Limits.validated` — the settings themselves, or the setting that is at fault

## Main results

* `validated_eq_ok_iff` — exactly the meaningful settings are accepted
-/

namespace Floodgate

/-- The settings of a limiter; rates are tokens per second. -/
structure Limits where
  ipRate : Binary64
  ipBurst : UInt32
  globalRate : Binary64
  globalBurst : UInt32
  sweepInterval : Span
  deriving DecidableEq

namespace Limits

/-- The limits that are in force unless others are set. -/
def standard : Limits := ⟨.ofNat 10, 20, .ofNat 100, 200, .ofSeconds 600⟩

/-- A finite rate above zero. -/
def isRate (x : Binary64) : Bool := x.isFinite && Binary64.zero.lt x

/-- Limits that a limiter can work with. -/
structure Meaningful (l : Limits) : Prop where
  ipRate : isRate l.ipRate = true
  ipBurst : 1 ≤ l.ipBurst.toNat
  globalRate : isRate l.globalRate = true
  globalBurst : 1 ≤ l.globalBurst.toNat
  sweepInterval : l.sweepInterval ≠ .zero

/-- A fault unless the check holds. -/
def check (holds : Bool) (field code message : String) : List FieldFault :=
  if holds then [] else [⟨field, code, some message⟩]

/-- The checks that fail, in the order of the fields. -/
def faults (l : Limits) : List FieldFault :=
  check (isRate l.ipRate) "ip_rate" "rate" "must be a finite number greater than 0" ++
  check (decide (1 ≤ l.ipBurst.toNat)) "ip_burst" "range" "must be at least 1" ++
  check (isRate l.globalRate) "global_rate" "rate" "must be a finite number greater than 0" ++
  check (decide (1 ≤ l.globalBurst.toNat)) "global_burst" "range" "must be at least 1" ++
  check (decide (l.sweepInterval ≠ .zero)) "sweep_interval" "interval" "must be greater than 0"

/-- The limits unchanged, or the setting to tell of. -/
def validated (l : Limits) : Except InvalidSetting Limits :=
  if l.faults.isEmpty then .ok l else .error (.ofFaults l.faults)

theorem check_eq_nil_iff {holds : Bool} {field code message : String} :
    check holds field code message = [] ↔ holds = true := by
  cases holds <;> simp [check]

theorem faults_eq_nil_iff {l : Limits} : l.faults = [] ↔ l.Meaningful := by
  simp only [faults, List.append_eq_nil_iff, check_eq_nil_iff, decide_eq_true_eq]
  constructor
  · rintro ⟨⟨⟨⟨h₁, h₂⟩, h₃⟩, h₄⟩, h₅⟩; exact ⟨h₁, h₂, h₃, h₄, h₅⟩
  · rintro ⟨h₁, h₂, h₃, h₄, h₅⟩; exact ⟨⟨⟨⟨h₁, h₂⟩, h₃⟩, h₄⟩, h₅⟩

theorem validated_eq_ok_iff {l l' : Limits} : l.validated = .ok l' ↔ l' = l ∧ l.Meaningful := by
  rw [← faults_eq_nil_iff, validated]
  cases h : l.faults with
  | nil => simp [eq_comm]
  | cons f fs => simp

end Limits

end Floodgate
