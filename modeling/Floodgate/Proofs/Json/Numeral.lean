import Floodgate.Proofs.Json.Reading

/-!
# Numbers are read to their end

The parts of a number are read one after the other: its sign, the whole part, the fraction and the
exponent. Nothing is left of a number that something stands behind which ends a value.

## Main definitions

* `Json.SpellsFraction`, `Json.SpellsExponent`, `Json.SpellsNumeral` — a number with its parts

## Main results

* `Json.IsNumber.exists_spellsNumeral` — every number is made of such parts
* `Json.SpellsNumeral.read_append` — a number is read as its parts
-/

namespace Floodgate.Json

variable {cs ds v : List Char}

/-! ### The parts of a number -/

/-- A fraction with its digits. -/
inductive SpellsFraction : List Char → List Char → Prop
  | absent : SpellsFraction [] []
  | present {ds : List Char} (digits : IsDigits ds) : SpellsFraction ('.' :: ds) ds

/-- An exponent, whether it is negative and its digits. -/
inductive SpellsExponent : List Char → Option (Bool × List Char) → Prop
  | absent : SpellsExponent [] none
  | present {mark : Char} {sign ds : List Char} {down : Bool} (mark_mem : mark ∈ ['e', 'E'])
      (sign_mem : (sign, down) ∈ [([], false), (['+'], false), (['-'], true)])
      (digits : IsDigits ds) : SpellsExponent (mark :: (sign ++ ds)) (some (down, ds))

/-- A number with its parts. -/
inductive SpellsNumeral : List Char → Numeral → Prop
  | mk {sign whole fraction exponent ds : List Char} {negative : Bool}
      {e : Option (Bool × List Char)} (sign_mem : (sign, negative) ∈ [([], false), (['-'], true)])
      (digits : IsDigits whole) (padded : whole.head? = some '0' → whole.length = 1)
      (spells_fraction : SpellsFraction fraction ds) (spells_exponent : SpellsExponent exponent e) :
      SpellsNumeral (sign ++ (whole ++ (fraction ++ exponent))) ⟨negative, whole, ds, e⟩

theorem exists_spellsFraction (fraction : IsFraction v) : ∃ ds, SpellsFraction v ds := by
  cases fraction with
  | none => exact ⟨_, .absent⟩
  | some digits => exact ⟨_, .present digits⟩

theorem exists_spellsExponent (exponent : IsExponent v) : ∃ e, SpellsExponent v e := by
  cases exponent with
  | none => exact ⟨_, .absent⟩
  | @some mark sign ds mark_mem sign_mem digits =>
    refine ⟨some (sign == ['-'], ds), .present mark_mem ?_ digits⟩
    simp only [List.mem_cons, List.not_mem_nil, or_false] at sign_mem
    rcases sign_mem with rfl | rfl | rfl <;> decide

theorem IsNumber.exists_spellsNumeral (number : IsNumber v) : ∃ m, SpellsNumeral v m := by
  obtain ⟨sign_mem, digits, padded, fraction, exponent⟩ := number
  obtain ⟨ds, fraction⟩ := exists_spellsFraction fraction
  obtain ⟨e, exponent⟩ := exists_spellsExponent exponent
  rw [List.append_assoc, List.append_assoc]
  simp only [List.mem_cons, List.not_mem_nil, or_false] at sign_mem
  rcases sign_mem with rfl | rfl
  · exact ⟨⟨false, _, _, _⟩, .mk (by decide) digits padded fraction exponent⟩
  · exact ⟨⟨true, _, _, _⟩, .mk (by decide) digits padded fraction exponent⟩

theorem SpellsFraction.isFraction (spells : SpellsFraction v ds) : IsFraction v := by
  cases spells with
  | absent => exact .none
  | present digits => exact .some digits

theorem SpellsExponent.isExponent {e : Option (Bool × List Char)} (spells : SpellsExponent v e) :
    IsExponent v := by
  cases spells with
  | absent => exact .none
  | @present mark sign ds down mark_mem sign_mem digits =>
    refine .some mark_mem ?_ digits
    simp only [List.mem_cons, List.not_mem_nil, or_false, Prod.mk.injEq] at sign_mem
    rcases sign_mem with ⟨rfl, -⟩ | ⟨rfl, -⟩ | ⟨rfl, -⟩ <;> decide

theorem SpellsNumeral.isNumber {m : Numeral} (spells : SpellsNumeral v m) : IsNumber v := by
  obtain ⟨sign_mem, digits, padded, fraction, exponent⟩ := spells
  rw [← List.append_assoc, ← List.append_assoc]
  refine .mk ?_ digits padded fraction.isFraction exponent.isExponent
  simp only [List.mem_cons, List.not_mem_nil, or_false, Prod.mk.injEq] at sign_mem
  rcases sign_mem with ⟨rfl, -⟩ | ⟨rfl, -⟩ <;> decide

/-! ### Reading the parts -/

/-- Digits do not go on in the text. -/
def StopsDigits (cs : List Char) : Prop := ∀ c, cs.head? = some c → c.isDigit = false

theorem IsEnd.stopsDigits (ends : IsEnd cs) : StopsDigits cs :=
  fun _ head => (ends.head_ne head).1

theorem readWhole_append (digits : IsDigits ds) (padded : ds.head? = some '0' → ds.length = 1)
    (stops : StopsDigits cs) : Numeral.readWhole (ds ++ cs) = .ok (ds, cs) := by
  have read := readDigits_append digits stops
  have unpadded : ¬(ds.head? = some '0' ∧ ds ≠ ['0']) := by
    rintro ⟨head, long⟩
    obtain ⟨d, rfl⟩ := List.length_eq_one_iff.1 (padded head)
    rw [List.head?_cons, Option.some.injEq] at head
    exact long (by rw [head])
  simp only [Numeral.readWhole, read, Bind.bind, Except.bind, if_neg unpadded]

/-- A fraction goes on neither in an exponent nor in what ends a value. -/
theorem SpellsFraction.readFraction_append (spells : SpellsFraction v ds) (stops : StopsDigits cs)
    (point : cs.head? ≠ some '.') : Numeral.readFraction (v ++ cs) = .ok (ds, cs) := by
  cases spells with
  | absent =>
    rw [List.nil_append]
    unfold Numeral.readFraction
    split
    · exact absurd rfl point
    · rfl
  | present digits => exact readDigits_append digits stops

theorem SpellsExponent.readExponent_append {e : Option (Bool × List Char)}
    (spells : SpellsExponent v e) (ends : IsEnd cs) :
    Numeral.readExponent (v ++ cs) = .ok (e, cs) := by
  cases spells with
  | absent =>
    cases cs with
    | nil => rfl
    | cons c cs =>
      obtain ⟨-, -, lower, upper⟩ := ends.head_ne rfl
      simp [Numeral.readExponent, lower, upper]
  | @present mark sign ds down mark_mem sign_mem digits =>
    have read := readDigits_append digits ends.stopsDigits
    have marked : mark = 'e' ∨ mark = 'E' := by simpa using mark_mem
    obtain ⟨d, ds, rfl⟩ := List.exists_cons_of_ne_nil digits.1
    -- A digit is no sign, so digits behind no sign are read as such.
    have digit : d ≠ '-' ∧ d ≠ '+' := by
      have := digits.2 d List.mem_cons_self
      constructor <;> rintro rfl <;> exact absurd this (by decide)
    simp only [List.mem_cons, List.not_mem_nil, or_false, Prod.mk.injEq] at sign_mem
    rcases sign_mem with ⟨rfl, rfl⟩ | ⟨rfl, rfl⟩ | ⟨rfl, rfl⟩ <;>
      simp_all [Numeral.readExponent, Bind.bind, Except.bind]

/-- What stands before an exponent or what ends a value does not go on there. -/
theorem SpellsExponent.head_ne {e : Option (Bool × List Char)} (spells : SpellsExponent v e)
    (ends : IsEnd cs) : StopsDigits (v ++ cs) ∧ (v ++ cs).head? ≠ some '.' := by
  cases spells with
  | absent => exact ⟨ends.stopsDigits, fun head => (ends.head_ne head).2.1 rfl⟩
  | @present mark sign ds down mark_mem =>
    have marked : mark = 'e' ∨ mark = 'E' := by simpa using mark_mem
    rcases marked with rfl | rfl <;> simp [StopsDigits]

theorem SpellsFraction.stopsDigits (spells : SpellsFraction v ds) (stops : StopsDigits cs) :
    StopsDigits (v ++ cs) := by
  cases spells with
  | absent => exact stops
  | present => simp [StopsDigits]

theorem SpellsNumeral.read_append {m : Numeral} (spells : SpellsNumeral v m) (ends : IsEnd cs) :
    Numeral.read (v ++ cs) = .ok (m, cs) := by
  obtain ⟨sign_mem, digits, padded, fraction, exponent⟩ := spells
  obtain ⟨stops, point⟩ := exponent.head_ne ends
  have whole_read := readWhole_append digits padded (fraction.stopsDigits stops)
  have fraction_read := fraction.readFraction_append stops point
  have exponent_read := exponent.readExponent_append ends
  obtain ⟨d, ds, rfl⟩ := List.exists_cons_of_ne_nil digits.1
  have digit : d ≠ '-' := by
    have := digits.2 d List.mem_cons_self
    rintro rfl
    exact absurd this (by decide)
  simp only [List.mem_cons, List.not_mem_nil, or_false, Prod.mk.injEq] at sign_mem
  simp only [List.append_assoc]
  rcases sign_mem with ⟨rfl, rfl⟩ | ⟨rfl, rfl⟩ <;>
    simp_all [Numeral.read, Bind.bind, Except.bind]

/-- A text has one set of parts. -/
theorem SpellsNumeral.unique {m m' : Numeral} (spells : SpellsNumeral v m)
    (spells' : SpellsNumeral v m') : m = m' := by
  have same := (spells.read_append isEnd_nil).symm.trans (spells'.read_append isEnd_nil)
  exact (Prod.mk.inj (Except.ok.inj same)).1

end Floodgate.Json
