import Floodgate.Proofs.Text.Order
import Floodgate.Proofs.Validation
import Mathlib.Data.List.Induction

/-!
# Faults collected by their fields

Faults may be collected in a table, which has the faults of each field in the order in which they
were added, and gives up its fields in whatever order it likes. The reasons of the first faults are
sorted by their fields then, and the first of them is told. What is told of a report is the same
on this way, whatever the order of the fields: it is a matter of the faults of each single field.

## Main definitions

* `FaultTable` — fields with their faults
* `FaultTable.add`, `collected` — faults added one after the other
* `InvalidSetting.ofTable` — what is told of a table

## Main results

* `Collects.ofTable_eq` — what is told of a table is told of the faults in it
* `InvalidSetting.ofFaults_told` — what is told of a report, in any order
-/

namespace Floodgate

/-- Fields with their faults. -/
abbrev FaultTable := List (String × List FieldFault)

/-- The table with one more fault, behind the others of its field. -/
def FaultTable.add (table : FaultTable) (f : FieldFault) : FaultTable :=
  if table.any (·.1 = f.field) then
    table.map fun e => if e.1 = f.field then (e.1, e.2 ++ [f]) else e
  else table ++ [(f.field, [f])]

/-- The table of faults that are added one after the other. -/
def collected (faults : List FieldFault) : FaultTable := faults.foldl FaultTable.add []

namespace InvalidSetting

/-- What is said of one field: the reason of its first fault. -/
def ofEntry (e : String × List FieldFault) : InvalidSetting :=
  ⟨e.1, (e.2.head?.map FieldFault.reason).getD "invalid"⟩

/-- The order by fields, and by reasons of the same field. -/
def precedes (e e' : InvalidSetting) : Bool :=
  decide (e.field < e'.field ∨ e.field = e'.field ∧ e.reason ≤ e'.reason)

/-- The setting told of a table, the first in order of what is said of the fields. -/
def ofTable (table : FaultTable) : InvalidSetting :=
  match (table.map ofEntry).mergeSort precedes with
  | e :: _ => e
  | [] => ⟨"config", "invalid"⟩

variable {e e' e'' : InvalidSetting}

theorem precedes_iff :
    precedes e e' = true ↔ e.field < e'.field ∨ e.field = e'.field ∧ e.reason ≤ e'.reason :=
  decide_eq_true_iff

theorem precedes_total (e e' : InvalidSetting) : (precedes e e' || precedes e' e) = true := by
  rw [Bool.or_eq_true, precedes_iff, precedes_iff]
  by_cases less : e.field < e'.field
  · exact .inl (.inl less)
  · by_cases greater : e'.field < e.field
    · exact .inr (.inl greater)
    · have same : e.field = e'.field :=
        String.le_antisymm (String.not_lt.1 greater) (String.not_lt.1 less)
      rcases String.le_total e.reason e'.reason with le | le
      · exact .inl (.inr ⟨same, le⟩)
      · exact .inr (.inr ⟨same.symm, le⟩)

theorem precedes_trans (first : precedes e e' = true) (second : precedes e' e'' = true) :
    precedes e e'' = true := by
  rw [precedes_iff] at *
  rcases first with less | ⟨same, le⟩
  · rcases second with less' | ⟨same', -⟩
    · exact .inl (String.lt_trans less less')
    · exact .inl (same' ▸ less)
  · rcases second with less' | ⟨same', le'⟩
    · exact .inl (same ▸ less')
    · exact .inr ⟨same.trans same', String.le_trans le le'⟩

theorem field_le_of_precedes (first : precedes e e' = true) : e.field ≤ e'.field := by
  rcases precedes_iff.1 first with less | ⟨same, -⟩
  · exact String.not_lt.1 (String.lt_asymm less)
  · rw [same]

/-- What is told of a table is said of one of its fields, and no other field has a lesser name. -/
theorem exists_ofTable_eq {table : FaultTable} (ne_nil : table ≠ []) :
    ∃ e ∈ table, ofTable table = ofEntry e ∧ ∀ e' ∈ table, e.1 ≤ e'.1 := by
  have sorted := @List.pairwise_mergeSort _ precedes (fun _ _ _ => precedes_trans)
    precedes_total (table.map ofEntry)
  have perm := List.mergeSort_perm (table.map ofEntry) precedes
  unfold ofTable
  cases eq : (table.map ofEntry).mergeSort precedes with
  | nil =>
    rw [eq, List.nil_perm, List.map_eq_nil_iff] at perm
    exact absurd perm ne_nil
  | cons least rest =>
    rw [eq] at sorted perm
    obtain ⟨e, mem, rfl⟩ := List.mem_map.1 (perm.mem_iff.1 List.mem_cons_self)
    refine ⟨e, mem, rfl, ?_⟩
    intro e' mem'
    -- What is said of another field stands behind the first in order.
    have mem_sorted := perm.mem_iff.2 (List.mem_map_of_mem (f := ofEntry) mem')
    rcases List.mem_cons.1 mem_sorted with same | mem_rest
    · have fields : e'.1 = e.1 := congrArg field same
      rw [fields]
    · exact field_le_of_precedes (List.rel_of_pairwise_cons sorted mem_rest)

end InvalidSetting

/-! ### What a table holds -/

/-- The table holds these faults: each field that has any stands in it once, with its faults in
their order. -/
structure Collects (table : FaultTable) (faults : List FieldFault) : Prop where
  nodup : (table.map Prod.fst).Nodup
  faults_eq : ∀ e ∈ table, e.2 = faults.filter (·.field = e.1)
  ne_nil : ∀ e ∈ table, e.2 ≠ []
  exists_entry : ∀ f ∈ faults, ∃ e ∈ table, e.1 = f.field

namespace Collects

variable {table table' : FaultTable} {faults : List FieldFault} {f : FieldFault}

/-- A table may give up its fields in any order. -/
theorem perm (collects : Collects table faults) (perm : table'.Perm table) :
    Collects table' faults where
  nodup := (perm.map Prod.fst).nodup_iff.2 collects.nodup
  faults_eq e mem := collects.faults_eq e (perm.mem_iff.1 mem)
  ne_nil e mem := collects.ne_nil e (perm.mem_iff.1 mem)
  exists_entry f mem := by
    obtain ⟨e, mem_e, field⟩ := collects.exists_entry f mem
    exact ⟨e, perm.mem_iff.2 mem_e, field⟩

/-- A fault that is added goes behind the others. -/
theorem add (collects : Collects table faults) (f : FieldFault) :
    Collects (FaultTable.add table f) (faults ++ [f]) := by
  have filter_eq (field : String) : (faults ++ [f]).filter (·.field = field) =
      faults.filter (·.field = field) ++ if f.field = field then [f] else [] := by
    by_cases same : f.field = field <;> simp [List.filter_append, same]
  unfold FaultTable.add
  split_ifs with known
  · -- The field has an entry, which is the only one that changes.
    have fields (e : String × List FieldFault) :
        (if e.1 = f.field then (e.1, e.2 ++ [f]) else e).1 = e.1 := by
      split_ifs <;> rfl
    constructor
    · simpa [Function.comp_def, fields] using collects.nodup
    · intro e mem
      obtain ⟨old, mem_old, rfl⟩ := List.mem_map.1 mem
      rw [fields, filter_eq, ← collects.faults_eq old mem_old]
      by_cases same : old.1 = f.field
      · simp [same]
      · simp [same, Ne.symm same]
    · intro e mem
      obtain ⟨old, mem_old, rfl⟩ := List.mem_map.1 mem
      by_cases same : old.1 = f.field
      · simp [same]
      · simpa [same] using collects.ne_nil old mem_old
    · intro g mem
      have entry : ∃ e ∈ table, e.1 = g.field := by
        rcases List.mem_append.1 mem with mem | mem
        · exact collects.exists_entry g mem
        · rw [List.mem_singleton.1 mem]
          simpa using known
      obtain ⟨e, mem_e, field⟩ := entry
      exact ⟨_, List.mem_map_of_mem mem_e, by rw [fields, field]⟩
  · -- The field is new, so no fault of it has come before.
    have unknown : ∀ e ∈ table, e.1 ≠ f.field := by
      intro e mem same
      exact known (List.any_eq_true.2 ⟨e, mem, decide_eq_true same⟩)
    have none : faults.filter (·.field = f.field) = [] := by
      rw [List.filter_eq_nil_iff]
      intro g mem same
      obtain ⟨e, mem_e, field⟩ := collects.exists_entry g mem
      exact unknown e mem_e (field.trans (by simpa using same))
    constructor
    · rw [List.map_append, List.nodup_append]
      refine ⟨collects.nodup, by simp, ?_⟩
      intro field mem other mem' same
      obtain ⟨e, mem_e, rfl⟩ := List.mem_map.1 mem
      exact unknown e mem_e (same.trans (by simpa using mem'))
    · intro e mem
      rw [filter_eq]
      rcases List.mem_append.1 mem with mem | mem
      · simpa [(unknown e mem).symm] using collects.faults_eq e mem
      · rw [List.mem_singleton.1 mem]
        simp [none]
    · intro e mem
      rcases List.mem_append.1 mem with mem | mem
      · exact collects.ne_nil e mem
      · rw [List.mem_singleton.1 mem]
        simp
    · intro g mem
      rcases List.mem_append.1 mem with mem | mem
      · obtain ⟨e, mem_e, field⟩ := collects.exists_entry g mem
        exact ⟨e, by simp [mem_e], field⟩
      · exact ⟨(f.field, [f]), by simp, by rw [List.mem_singleton.1 mem]⟩

theorem collected (faults : List FieldFault) : Collects (collected faults) faults := by
  induction faults using List.reverseRecOn with
  | nil => constructor <;> simp [Floodgate.collected]
  | append_singleton faults f ih =>
    rw [Floodgate.collected, List.foldl_append]
    exact ih.add f

/-! ### What is told of it -/

/-- What is said of a field is said of its first fault. -/
theorem ofEntry_eq (collects : Collects table faults) {e : String × List FieldFault}
    (mem : e ∈ table) (first : faults.find? (·.field = e.1) = some f) :
    InvalidSetting.ofEntry e = ⟨f.field, f.reason⟩ := by
  have same : f.field = e.1 := by simpa using List.find?_some first
  rw [InvalidSetting.ofEntry, collects.faults_eq e mem, List.head?_filter, first, same]
  rfl

/-- What is told of a table is told of the faults in it. -/
theorem ofTable_eq (collects : Collects table faults) :
    InvalidSetting.ofTable table = InvalidSetting.ofFaults faults := by
  by_cases nil : faults = []
  · have empty : table = [] := by
      rw [List.eq_nil_iff_forall_not_mem]
      intro e mem
      apply collects.ne_nil e mem
      rw [collects.faults_eq e mem, nil, List.filter_nil]
    rw [empty, nil, InvalidSetting.ofTable, List.map_nil, List.mergeSort_nil]
    rfl
  · obtain ⟨f, told, -⟩ := InvalidSetting.exists_isTold nil
    have mem_f := List.mem_of_find?_eq_some told.first
    obtain ⟨entry, mem_entry, field⟩ := collects.exists_entry f mem_f
    obtain ⟨e, mem, eq, least⟩ := InvalidSetting.exists_ofTable_eq (List.ne_nil_of_mem mem_entry)
    -- The field that is told has a fault in the report, so its name is not less than that of `f`.
    obtain ⟨g, gs, faults_of⟩ := List.exists_cons_of_ne_nil (collects.ne_nil e mem)
    have mem_g : g ∈ faults.filter (·.field = e.1) := by
      rw [← collects.faults_eq e mem, faults_of]
      exact List.mem_cons_self
    obtain ⟨mem_g, field_g⟩ := List.mem_filter.1 mem_g
    have same : e.1 = f.field := by
      apply String.le_antisymm
      · rw [← field]
        exact least entry mem_entry
      · rw [← of_decide_eq_true field_g]
        exact told.least g mem_g
    rw [eq, InvalidSetting.ofFaults_of_isTold told]
    exact collects.ofEntry_eq mem (by rw [same, told.first])

end Collects

namespace InvalidSetting

variable {faults faults' : List FieldFault} {f : FieldFault}

/-- Only the faults of each single field, in their order, decide which fault is told. -/
theorem isTold_of_filter_eq
    (same : ∀ field, faults'.filter (·.field = field) = faults.filter (·.field = field))
    (told : IsTold faults f) : IsTold faults' f := by
  constructor
  · rw [← List.head?_filter, same, List.head?_filter, told.first]
  · intro g mem
    apply told.least g
    have mem_filter : g ∈ faults'.filter (·.field = g.field) := by simp [mem]
    rw [same] at mem_filter
    exact (List.mem_filter.1 mem_filter).1

theorem ofFaults_of_filter_eq
    (same : ∀ field, faults'.filter (·.field = field) = faults.filter (·.field = field)) :
    ofFaults faults' = ofFaults faults := by
  by_cases nil : faults = []
  · have nil' : faults' = [] := by
      rw [List.eq_nil_iff_forall_not_mem]
      intro g mem
      have mem_filter : g ∈ faults'.filter (·.field = g.field) := by simp [mem]
      rw [same, nil] at mem_filter
      cases mem_filter
    rw [nil, nil']
  · obtain ⟨f, told, -⟩ := exists_isTold nil
    rw [ofFaults_of_isTold told, ofFaults_of_isTold (isTold_of_filter_eq same told)]

/-- Of a report without faults the whole record is told. Of any other one a fault is told that is
the first of its field, where the bytes of no other field come before those of its own: by its
message, or by its code when it has none. The same is told of the table in which the faults were
collected, whatever the order in which it gives up its fields, and of every report that has the
same faults of each single field in the same order. -/
theorem ofFaults_told (faults : List FieldFault) :
    (faults = [] → ofFaults faults = ⟨"config", "invalid"⟩) ∧
    (faults ≠ [] → ∃ before f behind, faults = before ++ f :: behind ∧
      (∀ g ∈ before, g.field ≠ f.field) ∧
      (∀ g ∈ faults, utf8Bytes f.field ≤ utf8Bytes g.field) ∧
      ofFaults faults = ⟨f.field, f.message.getD f.code⟩) ∧
    (∀ table : FaultTable, table.Perm (collected faults) →
      ofTable table = ofFaults faults) ∧
    ∀ faults', (∀ field, faults'.filter (·.field = field) = faults.filter (·.field = field)) →
      ofFaults faults' = ofFaults faults := by
  refine ⟨?_, ?_, ?_, ?_⟩
  · rintro rfl
    rfl
  · intro ne_nil
    obtain ⟨f, told, -⟩ := exists_isTold ne_nil
    obtain ⟨-, before, behind, faults_eq, others⟩ := List.find?_eq_some_iff_append.1 told.first
    refine ⟨before, f, behind, faults_eq, ?_, ?_, ofFaults_of_isTold told⟩
    · intro g mem
      simpa using others g mem
    · intro g mem
      exact utf8Bytes_le_iff.2 (told.least g mem)
  · intro table perm
    exact ((Collects.collected faults).perm perm).ofTable_eq
  · intro faults' same
    exact ofFaults_of_filter_eq same

/-- A report in which the faults of two fields come mixed, one field's name beginning with the
other's. -/
def mixed : List FieldFault :=
  [⟨"ip_rate", "rate", some "must be finite"⟩, ⟨"ip", "unset", none⟩, ⟨"ip_rate", "range", none⟩,
    ⟨"ip", "", some ""⟩]

/-- Of the mixed report the shorter name is told by its first fault's code, also when the table
gives up its fields the other way round, and when the faults come field by field. -/
theorem mixed_told :
    ofFaults mixed = ⟨"ip", "unset"⟩ ∧ ofTable (collected mixed).reverse = ⟨"ip", "unset"⟩ ∧
      ofFaults [⟨"ip_rate", "rate", some "must be finite"⟩, ⟨"ip_rate", "range", none⟩,
        ⟨"ip", "unset", none⟩, ⟨"ip", "", some ""⟩] = ⟨"ip", "unset"⟩ := by
  obtain ⟨-, -, table, reordered⟩ := ofFaults_told mixed
  have mixed_eq : ofFaults mixed = ⟨"ip", "unset"⟩ := by decide
  refine ⟨mixed_eq, (table _ (List.reverse_perm _)).trans mixed_eq, ?_⟩
  rw [reordered, mixed_eq]
  intro field
  -- Only two fields have faults at all.
  by_cases ip : "ip" = field
  · subst ip
    decide
  · by_cases rate : "ip_rate" = field
    · subst rate
      decide
    · simp [mixed, ip, rate]

end InvalidSetting

end Floodgate
