import Floodgate.Text.Blank
import Floodgate.Text.Split
import Mathlib.Data.List.Basic
import Mathlib.Data.List.Forall2
import Mathlib.Data.List.TakeWhile

/-!
# The parts of a text

Splitting undoes putting marks between parts, as long as no part holds the mark; a doubled mark is
found behind such parts, as long as none of them is empty; and trimming undoes putting blanks
around a word.

## Main results

* `splitOn_intercalate` — the parts with marks between them split into the parts
* `cutAt_intercalate_append`, `eq_of_cutAt` — where the first doubled mark is
* `takeWhile_ne_eq_iff` — the first of the parts
* `trimBlanks_append`, `exists_trimBlanks` — a word between blanks
* `mapM_eq_some_iff` — reading all the parts
-/

namespace Floodgate

variable {mark : Char}

/-! ### Marks between parts -/

theorem splitOn_eq (mark : Char) (cs : List Char) : splitOn mark cs = cs.splitOn mark := by
  induction cs with
  | nil => rfl
  | cons c cs ih =>
    rw [splitOn, List.splitOn_cons_eq_if_modifyHead, ← ih]
    obtain ⟨part, parts, split_eq⟩ := List.exists_cons_of_ne_nil (splitOn_ne_nil mark cs)
    simp only [split_eq, beq_iff_eq, List.modifyHead_cons]

theorem splitOn_intercalate {parts : List (List Char)} (unmarked : ∀ part ∈ parts, mark ∉ part)
    (ne_nil : parts ≠ []) : splitOn mark ([mark].intercalate parts) = parts := by
  rw [splitOn_eq, List.splitOn_intercalate mark unmarked ne_nil]

/-- The first part of a text holds no mark, and more parts may follow it. -/
theorem takeWhile_ne_eq_iff {cs part : List Char} :
    cs.takeWhile (· ≠ mark) = part ↔
      mark ∉ part ∧ ∃ parts, cs = [mark].intercalate (part :: parts) := by
  constructor
  · rintro rfl
    refine ⟨fun mem => by simpa using List.mem_takeWhile_imp mem, ?_⟩
    have cs_eq := List.takeWhile_append_dropWhile (p := (· ≠ mark)) (l := cs)
    have head := List.head?_dropWhile_not (· ≠ mark) cs
    rcases drop_eq : cs.dropWhile (· ≠ mark) with _ | ⟨c, rest⟩
    · rw [drop_eq, List.append_nil] at cs_eq
      exact ⟨[], by rw [List.intercalate_singleton, cs_eq]⟩
    · rw [drop_eq] at cs_eq head
      obtain rfl : c = mark := by simpa using head
      exact ⟨[rest], by rw [List.intercalate_cons_cons, List.intercalate_singleton,
        List.append_assoc]; exact cs_eq.symm⟩
  · rintro ⟨unmarked, parts, rfl⟩
    have all : ∀ c ∈ part, decide (c ≠ mark) = true := fun c mem =>
      decide_eq_true fun h => unmarked (h ▸ mem)
    cases parts with
    | nil => rw [List.intercalate_singleton, List.takeWhile_eq_self_iff.2 all]
    | cons next parts =>
      rw [List.intercalate_cons_cons, List.append_assoc, List.takeWhile_append_of_pos all]
      simp

theorem mem_intercalate {parts : List (List Char)} {c : Char}
    (mem : c ∈ [mark].intercalate parts) : c = mark ∨ ∃ part ∈ parts, c ∈ part := by
  induction parts with
  | nil => simp at mem
  | cons part parts ih =>
    cases parts with
    | nil => exact .inr ⟨part, by simp, by simpa using mem⟩
    | cons next parts =>
      rw [List.intercalate_cons_cons, List.mem_append, List.mem_append, List.mem_singleton] at mem
      obtain (mem | rfl) | mem := mem
      · exact .inr ⟨part, by simp, mem⟩
      · exact .inl rfl
      · obtain rfl | ⟨p, p_mem, mem⟩ := ih mem
        · exact .inl rfl
        · exact .inr ⟨p, List.mem_cons_of_mem part p_mem, mem⟩

theorem mark_mem_intercalate {parts : List (List Char)} (two : 2 ≤ parts.length) :
    mark ∈ [mark].intercalate parts := by
  obtain ⟨part, next, rest, rfl⟩ : ∃ part next rest, parts = part :: next :: rest := by
    match parts, two with
    | part :: next :: rest, _ => exact ⟨part, next, rest, rfl⟩
  simp

/-! ### A doubled mark -/

theorem eq_of_cutAt {cs before after : List Char} (cut : cutAt mark cs = some (before, after)) :
    cs = before ++ mark :: mark :: after := by
  fun_induction cutAt mark cs generalizing before with
  | case1 => simp at cut
  | case2 => simp at cut
  | case3 c d cs both => simp_all
  | case4 c d cs _ ih =>
    obtain ⟨⟨front, back⟩, cut_rest, pair_eq⟩ := Option.map_eq_some_iff.1 cut
    obtain ⟨rfl, rfl⟩ := Prod.mk.inj pair_eq
    rw [ih cut_rest, List.cons_append]

theorem cutAt_cons_cons {c d : Char} (apart : c ≠ mark ∨ d ≠ mark) (cs : List Char) :
    cutAt mark (c :: d :: cs) =
      (cutAt mark (d :: cs)).map fun (before, after) => (c :: before, after) := by
  rw [cutAt, if_neg fun both => apart.elim (· both.1) (· both.2)]

/-- A part without a mark stands before what is cut. -/
theorem cutAt_append {part : List Char} (unmarked : mark ∉ part) (cs : List Char) :
    cutAt mark (part ++ cs) =
      (cutAt mark cs).map fun (before, after) => (part ++ before, after) := by
  induction part with
  | nil => simp
  | cons c part ih =>
    have c_ne : c ≠ mark := fun h => unmarked (h ▸ List.mem_cons_self)
    have ih := ih fun mem => unmarked (List.mem_cons_of_mem c mem)
    -- What follows the character may be nothing, since a text of one character is not cut.
    rcases rest_eq : part ++ cs with _ | ⟨d, rest⟩
    · obtain ⟨rfl, rfl⟩ := List.append_eq_nil_iff.1 rest_eq
      rfl
    · rw [List.cons_append, rest_eq, cutAt_cons_cons (.inl c_ne), ← rest_eq, ih, Option.map_map]
      rfl

/-- No doubled mark begins within parts that are not empty. -/
theorem cutAt_intercalate_append {parts : List (List Char)}
    (unmarked : ∀ part ∈ parts, mark ∉ part) (full : ∀ part ∈ parts, part ≠ [])
    (cs : List Char) :
    cutAt mark ([mark].intercalate parts ++ cs) =
      (cutAt mark cs).map fun (before, after) => ([mark].intercalate parts ++ before, after) := by
  induction parts with
  | nil => simp
  | cons part parts ih =>
    have ih := ih (fun p mem => unmarked p (by simp [mem])) fun p mem => full p (by simp [mem])
    cases parts with
    | nil => simpa using cutAt_append (unmarked part (by simp)) cs
    | cons next parts =>
      -- The mark behind the first part is single, since the next part begins with another
      -- character.
      obtain ⟨d, ds, rfl⟩ := List.exists_cons_of_ne_nil (full next (by simp))
      have d_ne : d ≠ mark := fun h => unmarked (d :: ds) (by simp) (by simp [h])
      obtain ⟨rest, rest_eq⟩ : ∃ rest, [mark].intercalate ((d :: ds) :: parts) = d :: rest := by
        cases parts <;> simp
      rw [rest_eq, List.cons_append] at ih
      rw [List.intercalate_cons_cons, rest_eq, List.append_assoc, List.append_assoc,
        cutAt_append (unmarked part (by simp)), List.singleton_append, List.cons_append,
        cutAt_cons_cons (.inr d_ne), ih, Option.map_map, Option.map_map]
      simp [Function.comp_def]

/-! ### A word between blanks -/

/-- Blanks only. -/
def AllBlank (cs : List Char) : Prop := ∀ c ∈ cs, isBlank c = true

theorem exists_dropBlanks (cs : List Char) : ∃ left, AllBlank left ∧ cs = left ++ dropBlanks cs :=
  ⟨cs.takeWhile isBlank, fun _ mem => List.mem_takeWhile_imp mem,
    List.takeWhile_append_dropWhile.symm⟩

theorem dropBlanks_append {left : List Char} (blank : AllBlank left) {word : List Char}
    (solid : ∀ c ∈ word, isBlank c = false) (ne_nil : word ≠ []) (cs : List Char) :
    dropBlanks (left ++ (word ++ cs)) = word ++ cs := by
  obtain ⟨c, rest, rfl⟩ := List.exists_cons_of_ne_nil ne_nil
  rw [dropBlanks, List.dropWhile_append_of_pos blank, List.cons_append,
    List.dropWhile_cons_of_neg (by simp [solid c])]

theorem exists_trimBlanks (cs : List Char) :
    ∃ left right, AllBlank left ∧ AllBlank right ∧ cs = left ++ (trimBlanks cs ++ right) := by
  obtain ⟨left, blank_left, cs_eq⟩ := exists_dropBlanks cs
  obtain ⟨right, blank_right, rest_eq⟩ := exists_dropBlanks (dropBlanks cs).reverse
  refine ⟨left, right.reverse, blank_left, fun c mem => blank_right c (by simpa using mem), ?_⟩
  rw [trimBlanks, ← List.reverse_append, ← rest_eq, List.reverse_reverse, ← cs_eq]

theorem trimBlanks_append {left right word : List Char} (blank_left : AllBlank left)
    (blank_right : AllBlank right) (solid : ∀ c ∈ word, isBlank c = false) (ne_nil : word ≠ []) :
    trimBlanks (left ++ (word ++ right)) = word := by
  have blank : AllBlank right.reverse := fun c mem => blank_right c (by simpa using mem)
  have solid_reverse : ∀ c ∈ word.reverse, isBlank c = false := fun c mem =>
    solid c (by simpa using mem)
  have tail := dropBlanks_append blank solid_reverse (by simpa using ne_nil) []
  rw [List.append_nil] at tail
  rw [trimBlanks, dropBlanks_append blank_left solid ne_nil, List.reverse_append, tail,
    List.reverse_reverse]

/-! ### All the parts read -/

theorem mapM_eq_some_iff {α β : Type} {f : α → Option β} {xs : List α} {ys : List β} :
    xs.mapM f = some ys ↔ List.Forall₂ (fun x y => f x = some y) xs ys := by
  induction xs generalizing ys with
  | nil => simp [eq_comm]
  | cons x xs ih =>
    cases ys with
    | nil => simp [List.mapM_cons, Option.bind_eq_some_iff]
    | cons y ys =>
      rw [List.forall₂_cons, ← ih]
      simp [List.mapM_cons, Option.bind_eq_some_iff]

end Floodgate
