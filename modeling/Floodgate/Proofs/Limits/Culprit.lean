import Floodgate.Limiter.Basic
import Floodgate.Proofs.Bucket.Projection
import Floodgate.Proofs.Validation
import Floodgate.Service

/-!
# Which limits are refused, and what is said of them

Limits are accepted as they are when every member makes sense: finite rates above zero, bursts of
one at least, an interval that is some time. Otherwise the member with the least name of those
that make no sense is told, with its own wording, in whatever order the checks are reported. A
limiter and a service are made of the very limits that are accepted, and fail in the same words.

## Main definitions

* `Limits.Member` — the members, each with its name and wording
* `Limits.Member.Sensible` — what is asked of a member, by the number that it is
* `Limits.Member.IsCulprit` — the member that is told

## Main results

* `Limits.mem_faults_iff` — a report has one fault for each member that makes no sense
* `Limits.accepted_or_blamed` — the limits are accepted everywhere, or one culprit is told
  everywhere
-/

namespace Floodgate.Limits

open Binary64

/-- The members of limits. -/
inductive Member where
  | ipRate | ipBurst | globalRate | globalBurst | sweepInterval
  deriving DecidableEq, Repr

namespace Member

/-- The name that a member goes by in reports. -/
def name : Member → String
  | ipRate => "ip_rate"
  | ipBurst => "ip_burst"
  | globalRate => "global_rate"
  | globalBurst => "global_burst"
  | sweepInterval => "sweep_interval"

/-- What is said of a member that makes no sense. -/
def reason : Member → String
  | ipRate | globalRate => "must be a finite number greater than 0"
  | ipBurst | globalBurst => "must be at least 1"
  | sweepInterval => "must be greater than 0"

/-- The code of its check. -/
def code : Member → String
  | ipRate | globalRate => "rate"
  | ipBurst | globalBurst => "range"
  | sweepInterval => "interval"

/-- The fault that its check reports. -/
def fault (m : Member) : FieldFault := ⟨m.name, m.code, some m.reason⟩

/-- What is asked of a member. -/
def Sensible (l : Limits) : Member → Prop
  | ipRate => l.ipRate.isFinite = true ∧ 0 < l.ipRate.toRat
  | ipBurst => 1 ≤ l.ipBurst.toNat
  | globalRate => l.globalRate.isFinite = true ∧ 0 < l.globalRate.toRat
  | globalBurst => 1 ≤ l.globalBurst.toNat
  | sweepInterval => 0 < l.sweepInterval.toNanos

/-- A member that makes no sense, with the least name of all that make none. -/
structure IsCulprit (l : Limits) (m : Member) : Prop where
  senseless : ¬m.Sensible l
  least : ∀ other : Member, ¬other.Sensible l → m.name ≤ other.name

theorem name_injective : Function.Injective name := by
  intro m other
  cases m <;> cases other <;> decide

theorem IsCulprit.unique {l : Limits} {m other : Member} (culprit : m.IsCulprit l)
    (culprit' : other.IsCulprit l) : m = other := by
  apply name_injective
  exact String.le_antisymm (culprit.least _ culprit'.senseless) (culprit'.least _ culprit.senseless)

end Member

variable {l : Limits} {f : FieldFault}

/-! ### The report -/

theorem mem_check_iff {holds : Bool} {field code message : String} :
    f ∈ check holds field code message ↔ ¬holds = true ∧ f = ⟨field, code, some message⟩ := by
  cases holds <;> simp [check]

/-- A report has one fault for each member that makes no sense. -/
theorem mem_faults_iff : f ∈ l.faults ↔ ∃ m : Member, ¬m.Sensible l ∧ f = m.fault := by
  have interval : l.sweepInterval ≠ .zero ↔ 0 < l.sweepInterval.toNanos := by
    rw [Nat.pos_iff_ne_zero, Ne, Ne, Span.toNanos_eq_zero_iff]
  simp only [faults, List.mem_append, mem_check_iff, isRate_iff, decide_eq_true_eq, interval]
  constructor
  · rintro ((((bad | bad) | bad) | bad) | bad)
    · exact ⟨.ipRate, bad⟩
    · exact ⟨.ipBurst, bad⟩
    · exact ⟨.globalRate, bad⟩
    · exact ⟨.globalBurst, bad⟩
    · exact ⟨.sweepInterval, bad⟩
  · rintro ⟨m, bad⟩
    cases m with
    | ipRate => exact .inl (.inl (.inl (.inl bad)))
    | ipBurst => exact .inl (.inl (.inl (.inr bad)))
    | globalRate => exact .inl (.inl (.inr bad))
    | globalBurst => exact .inl (.inr bad)
    | sweepInterval => exact .inr bad

/-- No two faults of a report are of one field. -/
theorem nodup_faults (l : Limits) : (l.faults.map FieldFault.field).Nodup := by
  have one (holds : Bool) (field code message : String) :
      ((check holds field code message).map FieldFault.field).Sublist [field] := by
    cases holds <;> simp [check]
  have names : (l.faults.map FieldFault.field).Sublist
      ["ip_rate", "ip_burst", "global_rate", "global_burst", "sweep_interval"] := by
    simp only [faults, List.map_append]
    exact (((one ..).append (one ..)).append (one ..)).append (one ..) |>.append (one ..)
  exact names.nodup (by decide)

theorem meaningful_iff : l.Meaningful ↔ ∀ m : Member, m.Sensible l := by
  rw [← faults_eq_nil_iff, List.eq_nil_iff_forall_not_mem]
  constructor
  · intro none m
    by_contra bad
    exact none m.fault (mem_faults_iff.2 ⟨m, bad, rfl⟩)
  · intro all f mem
    obtain ⟨m, bad, -⟩ := mem_faults_iff.1 mem
    exact bad (all m)

/-- The culprit is what is told of the report. -/
theorem Member.IsCulprit.isTold {m : Member} (culprit : m.IsCulprit l) :
    InvalidSetting.IsTold l.faults m.fault := by
  apply InvalidSetting.isTold_of_nodup (nodup_faults l)
  · exact mem_faults_iff.2 ⟨m, culprit.senseless, rfl⟩
  · intro g mem
    obtain ⟨other, bad, rfl⟩ := mem_faults_iff.1 mem
    exact culprit.least other bad

theorem exists_isCulprit (refused : ¬l.Meaningful) : ∃ m : Member, m.IsCulprit l := by
  rw [← faults_eq_nil_iff] at refused
  obtain ⟨f, told, -⟩ := InvalidSetting.exists_isTold refused
  obtain ⟨m, bad, rfl⟩ := mem_faults_iff.1 (List.mem_of_find?_eq_some told.first)
  refine ⟨m, bad, ?_⟩
  intro other bad'
  exact told.least other.fault (mem_faults_iff.2 ⟨other, bad', rfl⟩)

/-- Limits whose members all make sense are accepted as they are, and make a limiter and a
service; of all other limits one culprit is told, by itself and by limiter and service alike, in
whatever order the faults are reported. -/
theorem accepted_or_blamed (l : Limits) :
    ((∀ m : Member, m.Sensible l) ∧ l.validated = .ok l ∧
      (∀ now, ∃ limiter, Limiter.new l now = .ok limiter ∧ limiter.limits = l) ∧
      ∀ s : Settings, s.limits = l → Service.limits s = .ok l) ∨
    ∃! m : Member, m.IsCulprit l ∧ l.validated = .error ⟨m.name, m.reason⟩ ∧
      (∀ faults : List FieldFault, faults.Perm l.faults →
        InvalidSetting.ofFaults faults = ⟨m.name, m.reason⟩) ∧
      (∀ now, Limiter.new l now = .error ⟨m.name, m.reason⟩) ∧
      ∀ s : Settings, s.limits = l →
        Service.limits s = .error (.setting ⟨m.name, m.reason⟩) := by
  by_cases accepted : l.Meaningful
  · have valid : l.validated = .ok l := validated_eq_ok_iff.2 ⟨rfl, accepted⟩
    refine .inl ⟨meaningful_iff.1 accepted, valid, ?_, ?_⟩
    · intro now
      exact ⟨Limiter.start l now, by rw [Limiter.new, valid]; rfl, rfl⟩
    · rintro s rfl
      rw [Service.limits, valid]
  · obtain ⟨m, culprit⟩ := exists_isCulprit accepted
    have told (faults : List FieldFault) (perm : faults.Perm l.faults) :
        InvalidSetting.ofFaults faults = ⟨m.name, m.reason⟩ :=
      InvalidSetting.ofFaults_of_isTold
        (InvalidSetting.isTold_of_perm (nodup_faults l) culprit.isTold perm)
    have invalid : l.validated = .error ⟨m.name, m.reason⟩ := by
      rw [← faults_eq_nil_iff, ← List.isEmpty_iff] at accepted
      rw [validated, if_neg accepted, told _ (.refl _)]
    refine .inr ⟨m, ⟨culprit, invalid, told, ?_, ?_⟩, ?_⟩
    · intro now
      rw [Limiter.new, invalid]
      rfl
    · rintro s rfl
      rw [Service.limits, invalid]
    · rintro other ⟨culprit', -⟩
      exact culprit'.unique culprit

/-- Settings with three members of their limits that make no sense. -/
def senseless : Settings where
  bindAddress := .v4 ⟨127, 0, 0, 1⟩ 8000
  ipRate := .one
  ipBurst := 0
  globalRate := .nan
  globalBurst := 1
  sweepInterval := .zero
  logLevel := "info"
  logJson := false
  deployment := "development"
  requestTimeout := .zero
  shutdownGrace := .zero

/-- Of the three the rate that is no number is told, also when the faults come the other way
round: its name is less than those of the client's burst and of the interval. -/
theorem senseless_blamed :
    senseless.limits.validated =
        .error ⟨"global_rate", "must be a finite number greater than 0"⟩ ∧
      senseless.limits.faults.length = 3 ∧
      InvalidSetting.ofFaults senseless.limits.faults.reverse =
        ⟨"global_rate", "must be a finite number greater than 0"⟩ ∧
      Service.limits senseless =
        .error (.setting ⟨"global_rate", "must be a finite number greater than 0"⟩) := by
  have global : Member.globalRate.IsCulprit senseless.limits := by
    constructor
    · rintro ⟨finite, -⟩
      cases finite
    · intro other bad
      cases other with
      | ipRate => exact absurd (isRate_iff.1 (by decide)) bad
      | globalBurst => exact absurd (Nat.le_refl 1) bad
      | ipBurst | globalRate | sweepInterval => decide
  rcases accepted_or_blamed senseless.limits with
    ⟨sensible, -⟩ | ⟨m, ⟨culprit, invalid, told, -, service⟩, -⟩
  · exact absurd (sensible .globalRate) global.senseless
  · obtain rfl := culprit.unique global
    exact ⟨invalid, by decide, told _ (List.reverse_perm _), service _ rfl⟩

end Floodgate.Limits
