import Floodgate.Bucket

/-!
# Tracked clients

The buckets of the clients that a limiter keeps, under the clients' names. A name occurs once.

## Main definitions

* `Clients` — buckets by name
* `Clients.get?`, `Clients.set`, `Clients.retain` — look up, put, keep those that pass a test

## Main results

* `get?_set`, `get?_retain` — what a look-up sees after each operation
-/

namespace Floodgate

/-- Buckets under distinct names, the latest new name first. -/
structure Clients where
  entries : List (String × Bucket)
  nodup : (entries.map Prod.fst).Nodup

namespace Clients

/-- No clients. -/
def empty : Clients := ⟨[], List.nodup_nil⟩

/-- The bucket of a client. -/
def get? (c : Clients) (name : String) : Option Bucket := c.entries.lookup name

/-- How many clients there are. -/
def size (c : Clients) : Nat := c.entries.length

/-- The names of the clients. -/
def names (c : Clients) : List String := c.entries.map Prod.fst

/-- The entries of all names but one. -/
def without (entries : List (String × Bucket)) (name : String) : List (String × Bucket) :=
  entries.filter (·.1 ≠ name)

theorem nodup_filter {entries : List (String × Bucket)} (p : String × Bucket → Bool)
    (h : (entries.map Prod.fst).Nodup) : ((entries.filter p).map Prod.fst).Nodup :=
  List.Nodup.sublist (List.filter_sublist.map Prod.fst) h

/-- Put a client's bucket in place of the one it had, if it had one. -/
def set (c : Clients) (name : String) (b : Bucket) : Clients where
  entries := (name, b) :: without c.entries name
  nodup := by
    rw [List.map_cons, List.nodup_cons]
    exact ⟨by simp [without], nodup_filter _ c.nodup⟩

/-- Keep the clients whose bucket passes the test. -/
def retain (c : Clients) (keep : Bucket → Bool) : Clients :=
  ⟨c.entries.filter (fun e => keep e.2), nodup_filter _ c.nodup⟩

@[simp] theorem get?_empty (name : String) : empty.get? name = none := rfl

theorem lookup_filter_ne {entries : List (String × Bucket)} {name other : String}
    (h : other ≠ name) : (without entries name).lookup other = entries.lookup other := by
  induction entries with
  | nil => rfl
  | cons e es ih =>
    obtain ⟨n, b⟩ := e
    by_cases hn : n = name
    · subst hn
      have hb : (other == n) = false := beq_eq_false_iff_ne.2 h
      simpa [without, List.lookup_cons, hb] using ih
    · by_cases ho : other = n
      · subst ho; simp [without, h]
      · have hb : (other == n) = false := beq_eq_false_iff_ne.2 ho
        simpa [without, hn, List.lookup_cons, hb] using ih

theorem get?_set (c : Clients) (name other : String) (b : Bucket) :
    (c.set name b).get? other = if other = name then some b else c.get? other := by
  by_cases h : other = name
  · subst h; simp [get?, set]
  · have hb : (other == name) = false := beq_eq_false_iff_ne.2 h
    simp [get?, set, h, List.lookup_cons, hb, lookup_filter_ne h]

theorem lookup_eq_none_of_not_mem {entries : List (String × Bucket)} {name : String}
    (h : name ∉ entries.map Prod.fst) : entries.lookup name = none := by
  induction entries with
  | nil => rfl
  | cons e es ih =>
    obtain ⟨n, b⟩ := e
    simp only [List.map_cons, List.mem_cons, not_or] at h
    have hb : (name == n) = false := beq_eq_false_iff_ne.2 h.1
    simp [List.lookup_cons, hb, ih h.2]

theorem get?_retain (c : Clients) (keep : Bucket → Bool) (name : String) :
    (c.retain keep).get? name = (c.get? name).filter keep := by
  obtain ⟨entries, nodup⟩ := c
  simp only [get?, retain]
  induction entries with
  | nil => rfl
  | cons e es ih =>
    obtain ⟨n, b⟩ := e
    rw [List.map_cons, List.nodup_cons] at nodup
    by_cases hn : name = n
    · subst hn
      have hnone : (es.filter fun e => keep e.2).lookup name = none :=
        lookup_eq_none_of_not_mem fun h =>
          nodup.1 ((List.filter_sublist.map Prod.fst).subset h)
      cases hk : keep b <;> simp [hk, hnone, Option.filter]
    · have hb : (name == n) = false := beq_eq_false_iff_ne.2 hn
      cases hk : keep b <;> simpa [hk, List.lookup_cons, hb] using ih nodup.2

end Clients

end Floodgate
