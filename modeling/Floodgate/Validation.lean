/-!
# Validation reports

Checks of a record's fields are collected as faults, and the whole report is told as one invalid
setting: the first fault of each field counts, and of those the one with the least field name in
character order. The order in which different fields were checked does not matter.

## Main definitions

* `FieldFault` — one failed check
* `InvalidSetting` — the setting that is told, and why
* `InvalidSetting.ofFaults` — the one setting told of a report
-/

namespace Floodgate

/-- One failed check of a field: a code, and a wording where there is one. -/
structure FieldFault where
  field : String
  code : String
  message : Option String
  deriving DecidableEq

/-- What is said of the failed check. -/
def FieldFault.reason (f : FieldFault) : String := f.message.getD f.code

/-- A setting that cannot be used. -/
structure InvalidSetting where
  field : String
  reason : String
  deriving DecidableEq

namespace InvalidSetting

/-- What is said of the setting. -/
def message (e : InvalidSetting) : String :=
  "invalid value for `" ++ e.field ++ "`: " ++ e.reason

/-- The first fault of each field, in order. -/
def firstOfEach : List FieldFault → List FieldFault
  | [] => []
  | f :: fs => f :: (firstOfEach fs).filter (·.field ≠ f.field)

/-- The fault with the least field name, the earlier one of two with the same name. -/
def least : List FieldFault → Option FieldFault
  | [] => none
  | f :: fs => match least fs with
    | none => some f
    | some g => if g.field < f.field then some g else some f

/-- The setting told of a report. A report without faults tells of the whole record. -/
def ofFaults (faults : List FieldFault) : InvalidSetting :=
  match least (firstOfEach faults) with
  | some f => ⟨f.field, f.reason⟩
  | none => ⟨"config", "invalid"⟩

end InvalidSetting

end Floodgate
