/-!
# Places in bytes

Places in a text that are counted in bytes of UTF-8. Not every count is a place: it may lead into
the middle of a character.

## Main definitions

* `cutAtByte?` — the parts of a text before and behind a place
* `between?` — the part of a text between two places

## Main results

* `append_of_cutAtByte?` — the two parts are the text
-/

namespace Floodgate

/-- The parts of a text before and behind a place; `none` when there is no such place. -/
def cutAtByte? (n : Nat) : List Char → Option (List Char × List Char)
  | [] => if n = 0 then some ([], []) else none
  | c :: cs =>
    if n = 0 then some ([], c :: cs)
    else if n < c.utf8Size then none
    else (cutAtByte? (n - c.utf8Size) cs).map fun (before, behind) => (c :: before, behind)

/-- The part of a text between two places; `none` when one of them is no place. -/
def between? (start stop : Nat) (cs : List Char) : Option (List Char) := do
  let (_, behind) ← cutAtByte? start cs
  let (part, _) ← cutAtByte? (stop - start) behind
  some part

theorem append_of_cutAtByte? {n : Nat} {cs before behind : List Char}
    (h : cutAtByte? n cs = some (before, behind)) : before ++ behind = cs := by
  induction cs generalizing n before with
  | nil =>
    unfold cutAtByte? at h
    split at h
    · obtain ⟨rfl, rfl⟩ := Prod.mk.inj (Option.some.inj h); rfl
    · contradiction
  | cons c cs ih =>
    unfold cutAtByte? at h
    split at h
    · obtain ⟨rfl, rfl⟩ := Prod.mk.inj (Option.some.inj h); rfl
    · split at h
      · contradiction
      · obtain ⟨⟨b, a⟩, hcut, heq⟩ := Option.map_eq_some_iff.1 h
        obtain ⟨rfl, rfl⟩ := Prod.mk.inj heq
        rw [List.cons_append, ih hcut]

example : between? 1 3 "aéb".toList = some ['é'] := by decide +kernel
example : between? 1 2 "aéb".toList = none := by decide +kernel

end Floodgate
