/-!
# Splitting text at marks

## Main definitions

* `splitOn` — the parts of a text between the occurrences of a mark
* `cutAt` — the parts of a text before and after the first occurrence of a doubled mark

## Main results

* `intercalate_splitOn` — the parts with the mark between them are the text
-/

namespace Floodgate

/-- The parts of a text between the occurrences of a mark; a text without the mark is one part. -/
def splitOn (mark : Char) : List Char → List (List Char)
  | [] => [[]]
  | c :: cs =>
    if c = mark then [] :: splitOn mark cs
    else match splitOn mark cs with
      | part :: parts => (c :: part) :: parts
      | [] => [[c]]

/-- What stands before and after the first two marks in a row. -/
def cutAt (mark : Char) : List Char → Option (List Char × List Char)
  | [] | [_] => none
  | c :: d :: cs =>
    if c = mark ∧ d = mark then some ([], cs)
    else (cutAt mark (d :: cs)).map fun (before, after) => (c :: before, after)

theorem splitOn_ne_nil (mark : Char) (cs : List Char) : splitOn mark cs ≠ [] := by
  cases cs with
  | nil => simp [splitOn]
  | cons c cs =>
    unfold splitOn
    split
    · simp
    · split <;> simp

theorem intercalate_splitOn (mark : Char) (cs : List Char) :
    [mark].intercalate (splitOn mark cs) = cs := by
  induction cs with
  | nil => rfl
  | cons c cs ih =>
    unfold splitOn
    obtain ⟨part, parts, h⟩ := List.exists_cons_of_ne_nil (splitOn_ne_nil mark cs)
    rw [h] at ih ⊢
    split
    · next hc => subst hc; simp [ih]
    · cases parts with
      | nil => simp at ih; simp [ih]
      | cons p ps => simp at ih; simp [← ih]

end Floodgate
