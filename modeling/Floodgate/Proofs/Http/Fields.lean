import Floodgate.Http.Message
import Mathlib.Data.List.Basic

/-!
# Header fields of one name

What header fields hold under a name, and that setting a field of another name leaves it alone.

## Main definitions

* `Http.Fields.named` — the header fields of a name

## Main results

* `Http.Response.named_setField`, `Http.Response.named_setField_of_ne` — the fields of a name once
  a field is set
* `Http.Response.first?_setField`, `Http.Response.first?_setField_of_ne` — the value of the first
-/

namespace Floodgate.Http

/-- The header fields of a name. -/
def Fields.named (fields : Fields) (name : String) : Fields := fields.filter (·.name = name)

theorem Fields.first?_eq_named (fields : Fields) (name : String) :
    fields.first? name = (fields.named name).head?.map Field.value := by
  rw [Fields.first?, Fields.named, List.head?_filter]

namespace Response

variable (response : Response) {name other : String} (value : String)

theorem named_setField (name : String) :
    (response.setField name value).fields.named name = [⟨name, value⟩] := by
  have others : (response.fields.filter (·.name ≠ name)).filter (·.name = name) = [] := by
    rw [List.filter_eq_nil_iff]
    intro field mem
    simpa using (List.mem_filter.1 mem).2
  rw [setField, Fields.named, List.filter_append, others]
  simp

theorem named_setField_of_ne (ne : other ≠ name) :
    (response.setField name value).fields.named other = response.fields.named other := by
  have kept : (response.fields.filter (·.name ≠ name)).filter (·.name = other) =
      response.fields.filter (·.name = other) := by
    rw [List.filter_filter]
    congr 1
    funext field
    by_cases same : field.name = other
    · simp [same, ne]
    · simp [same]
  rw [setField, Fields.named, List.filter_append, kept]
  simp [Fields.named, ne.symm]

theorem first?_setField (name : String) :
    (response.setField name value).fields.first? name = some value := by
  rw [Fields.first?_eq_named, named_setField]
  rfl

theorem first?_setField_of_ne (ne : other ≠ name) :
    (response.setField name value).fields.first? other = response.fields.first? other := by
  rw [Fields.first?_eq_named, named_setField_of_ne _ _ ne, ← Fields.first?_eq_named]

end Response

end Floodgate.Http
