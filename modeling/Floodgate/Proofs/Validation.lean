import Floodgate.Validation
import Mathlib.Data.List.Basic
import Mathlib.Data.List.Nodup

/-!
# The fault that is told of a report

Of a report one fault is told: the first one of its field, where no other field of the report has a
lesser name. There is one in every report that has any faults, and no other; so as long as no
field has several faults, the order of the report does not matter.

## Main definitions

* `InvalidSetting.IsTold` — a fault is the one that is told

## Main results

* `InvalidSetting.ofFaults_of_isTold`, `InvalidSetting.exists_isTold` — what is told of a report
* `InvalidSetting.isTold_of_perm` — the order of the report does not matter
-/

namespace Floodgate.InvalidSetting

variable {faults faults' : List FieldFault} {f g : FieldFault}

/-- The fault is the first one of its field, and no fault has a field of a lesser name. -/
structure IsTold (faults : List FieldFault) (f : FieldFault) : Prop where
  first : faults.find? (·.field = f.field) = some f
  least : ∀ g ∈ faults, f.field ≤ g.field

theorem IsTold.unique (told : IsTold faults f) (told' : IsTold faults g) : f = g := by
  have le := told.least g (List.mem_of_find?_eq_some told'.first)
  have le' := told'.least f (List.mem_of_find?_eq_some told.first)
  have first := told.first
  rw [String.le_antisymm le le', told'.first] at first
  exact (Option.some.inj first).symm

/-! ### The search -/

theorem mem_firstOfEach_iff :
    f ∈ firstOfEach faults ↔ faults.find? (·.field = f.field) = some f := by
  induction faults with
  | nil => simp [firstOfEach]
  | cons g faults ih =>
    -- Behind the first fault of a field no other one of that field is left.
    rw [firstOfEach, List.mem_cons, List.mem_filter, ih, List.find?_cons]
    by_cases same : g.field = f.field
    · simp [same, eq_comm]
    · have other : f ≠ g := fun eq => same (by rw [eq])
      simp [same, other, Ne.symm same]

/-- Every field of a report has a first fault. -/
theorem exists_mem_firstOfEach (mem : g ∈ faults) :
    ∃ f ∈ firstOfEach faults, f.field = g.field := by
  cases found : faults.find? (·.field = g.field) with
  | none => exact absurd (List.find?_eq_none.1 found g mem) (by simp)
  | some f =>
    have same : f.field = g.field := by simpa using List.find?_some found
    exact ⟨f, mem_firstOfEach_iff.2 (by rw [same, found]), same⟩

theorem least_eq_none_iff {fs : List FieldFault} : least fs = none ↔ fs = [] := by
  cases fs with
  | nil => simp [least]
  | cons f fs =>
    rw [least]
    split
    · simp
    · split_ifs <;> simp

theorem least_spec {fs : List FieldFault} (found : least fs = some f) :
    f ∈ fs ∧ ∀ g ∈ fs, f.field ≤ g.field := by
  induction fs generalizing f with
  | nil => simp [least] at found
  | cons g fs ih =>
    rw [least] at found
    cases rest : least fs with
    | none =>
      rw [rest] at found
      obtain rfl := Option.some.inj found
      simp [least_eq_none_iff.1 rest]
    | some h =>
      obtain ⟨mem, le⟩ := ih rest
      simp only [rest] at found
      split_ifs at found with less
      · obtain rfl := Option.some.inj found
        refine ⟨List.mem_cons_of_mem _ mem, ?_⟩
        rintro k (_ | ⟨_, mem_k⟩)
        · exact String.not_lt.1 (String.lt_asymm less)
        · exact le k mem_k
      · obtain rfl := Option.some.inj found
        refine ⟨List.mem_cons_self, ?_⟩
        rintro k (_ | ⟨_, mem_k⟩)
        · exact String.le_refl _
        · exact String.le_trans (String.not_lt.1 less) (le k mem_k)

/-- There is a fault to be told in every report that has any. -/
theorem exists_isTold (ne_nil : faults ≠ []) :
    ∃ f, IsTold faults f ∧ least (firstOfEach faults) = some f := by
  cases found : least (firstOfEach faults) with
  | none =>
    obtain ⟨g, mem⟩ := List.exists_mem_of_ne_nil faults ne_nil
    obtain ⟨f, mem_f, -⟩ := exists_mem_firstOfEach mem
    rw [least_eq_none_iff.1 found] at mem_f
    cases mem_f
  | some f =>
    obtain ⟨mem, le⟩ := least_spec found
    refine ⟨f, ⟨mem_firstOfEach_iff.1 mem, ?_⟩, rfl⟩
    intro g mem_g
    obtain ⟨h, mem_h, same⟩ := exists_mem_firstOfEach mem_g
    rw [← same]
    exact le h mem_h

theorem ofFaults_of_isTold (told : IsTold faults f) : ofFaults faults = ⟨f.field, f.reason⟩ := by
  have mem := List.mem_of_find?_eq_some told.first
  obtain ⟨g, told', found⟩ := exists_isTold (List.ne_nil_of_mem mem)
  rw [ofFaults, found, told.unique told']

/-! ### Reports with one fault for a field -/

theorem isTold_of_nodup (nodup : (faults.map FieldFault.field).Nodup) (mem : f ∈ faults)
    (least : ∀ g ∈ faults, f.field ≤ g.field) : IsTold faults f := by
  refine ⟨?_, least⟩
  obtain ⟨g, mem_g, same⟩ := exists_mem_firstOfEach mem
  rw [mem_firstOfEach_iff, same] at mem_g
  rw [mem_g, List.inj_on_of_nodup_map nodup (List.mem_of_find?_eq_some mem_g) mem same]

theorem isTold_of_perm (nodup : (faults.map FieldFault.field).Nodup) (told : IsTold faults f)
    (perm : faults'.Perm faults) : IsTold faults' f := by
  refine isTold_of_nodup ?_ ?_ ?_
  · exact (perm.map FieldFault.field).nodup_iff.2 nodup
  · exact perm.mem_iff.2 (List.mem_of_find?_eq_some told.first)
  · intro g mem
    exact told.least g (perm.mem_iff.1 mem)

end Floodgate.InvalidSetting
