/-!
# Environments

The variables that a process sees.

## Main definitions

* `Environment.add` — one more variable, unless it is set already
* `Environment.valueBehind` — the value that stands behind a text

## Main results

* `valueBehind_of_no_equals` — behind a name stands the value of its variable
* `lookup_add` — a variable that is set keeps its value
-/

namespace Floodgate

/-- Variables with their values; of several with one name the first counts. -/
abbrev Environment := List (String × String)

namespace Environment

/-- The environment with one more variable; one that is set already keeps its value. -/
def add (env : Environment) (name value : String) : Environment :=
  if (env.lookup name).isSome then env else env ++ [(name, value)]

/-- The value that stands behind a text and an equals sign. A text that holds an equals sign
itself is a name and the beginning of a value, behind which the rest of the value stands. -/
def valueBehind (env : Environment) (text : List Char) : Option String :=
  let value := env.lookup (String.ofList (text.takeWhile (· ≠ '=')))
  match text.dropWhile (· ≠ '=') with
  | [] => value
  | _ :: start => value.bind fun v =>
    (List.isPrefixOf? (start ++ ['=']) v.toList).map String.ofList

theorem valueBehind_of_no_equals (env : Environment) {text : List Char} (h : '=' ∉ text) :
    env.valueBehind text = env.lookup (String.ofList text) := by
  have whole : text.takeWhile (· ≠ '=') = text ∧ text.dropWhile (· ≠ '=') = [] := by
    induction text with
    | nil => exact ⟨rfl, rfl⟩
    | cons c cs ih =>
      obtain ⟨hc, hcs⟩ := not_or.1 fun hor => h (List.mem_cons.2 hor)
      obtain ⟨htake, hdrop⟩ := ih hcs
      have hne : decide (c ≠ '=') = true := decide_eq_true (Ne.symm hc)
      exact ⟨by rw [List.takeWhile_cons, if_pos hne, htake],
        by rw [List.dropWhile_cons, if_pos hne, hdrop]⟩
  simp only [valueBehind, whole.1, whole.2]

theorem lookup_append (env env' : Environment) (name : String) :
    (env ++ env').lookup name = (env.lookup name).or (env'.lookup name) := by
  induction env with
  | nil => rfl
  | cons e es ih =>
    obtain ⟨n, v⟩ := e
    by_cases h : name = n
    · subst h; simp
    · have hb : (name == n) = false := beq_eq_false_iff_ne.2 h
      simpa [List.lookup_cons, hb] using ih

theorem lookup_add (env : Environment) (name value other : String) :
    (env.add name value).lookup other =
      (env.lookup other).or (if other = name then some value else none) := by
  unfold add
  split
  · next h =>
    by_cases ho : other = name
    · subst ho; obtain ⟨v, hv⟩ := Option.isSome_iff_exists.1 h; simp [hv]
    · simp [ho]
  · rw [lookup_append]
    by_cases ho : other = name
    · simp [ho]
    · have hb : (other == name) = false := beq_eq_false_iff_ne.2 ho
      simp [List.lookup_cons, hb, ho]

end Environment

end Floodgate
