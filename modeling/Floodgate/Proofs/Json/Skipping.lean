import Floodgate.Json.Skip
import Floodgate.Proofs.Json.Numeral
import Mathlib.Data.List.DropRight

/-!
# Values that do not matter are skipped

Every well-formed value is skipped to its end and no further, whatever its type, its size and the
depth of its nesting.

## Main results

* `Json.IsString.skipText_append` — a string is skipped, whether its surrogates are paired or not
* `Json.IsValue.skipValue_append` — a value is skipped
-/

namespace Floodgate.Json

variable {bs cs v : List Char}

/-! ### Strings and numbers -/

theorem skipEscape_letter {l c : Char} (mem : (l, c) ∈ letterEscapes) (cs : List Char) :
    skipEscape (l :: cs) = .ok cs := by
  obtain ⟨other, letter⟩ := simpleEscape_of_mem mem
  simp [skipEscape, other, letter]

theorem skipEscape_unit {ds : List Char} {unit : ℕ} (spells : SpellsUnit ds unit)
    (cs : List Char) : skipEscape ('u' :: (ds ++ cs)) = .ok cs := by
  simp [skipEscape, spells.readUnit_append, Except.map]

theorem skipContent_escape {fuel : ℕ} {cs' rest : List Char} (pos : 0 < fuel)
    (escape : skipEscape cs = .ok cs') (content : skipContent (fuel - 1) cs' = .ok rest) :
    skipContent fuel ('\\' :: cs) = .ok rest := by
  obtain ⟨fuel, rfl⟩ := Nat.exists_eq_add_one_of_ne_zero pos.ne'
  rw [Nat.add_sub_cancel] at content
  simp [skipContent, escape, content, Bind.bind, Except.bind]

theorem IsContent.skipContent_append {content : List Char} (well : IsContent content)
    (cs : List Char) {fuel : ℕ} (enough : content.length < fuel) :
    skipContent fuel (content ++ '"' :: cs) = .ok cs := by
  -- An escape takes several characters but one round only, so the length is bound enough.
  induction well generalizing fuel with
  | nil =>
    obtain ⟨fuel, rfl⟩ := Nat.exists_eq_add_one_of_ne_zero (Nat.ne_zero_of_lt enough)
    simp [skipContent]
  | plain plain _ ih =>
    obtain ⟨fuel, rfl⟩ := Nat.exists_eq_add_one_of_ne_zero (Nat.ne_zero_of_lt enough)
    have shows := Nat.not_lt.2 plain.shows
    have rest := ih (Nat.lt_of_succ_lt_succ enough)
    simp [skipContent, plain.quote, plain.backslash, shows, rest]
  | letter mem _ ih =>
    simp only [List.length_cons] at enough
    exact skipContent_escape (by omega) (skipEscape_letter mem _) (ih (by omega))
  | unit spells _ ih =>
    simp only [List.length_cons, List.length_append] at enough
    rw [List.cons_append, List.cons_append, List.append_assoc]
    exact skipContent_escape (by omega) (skipEscape_unit spells _) (ih (by omega))

theorem IsString.skipText_append (string : IsString v) :
    ∃ tail, v = '"' :: tail ∧ ∀ cs, skipText (tail ++ cs) = .ok cs := by
  obtain ⟨content, well, rfl⟩ := string
  refine ⟨content ++ ['"'], rfl, ?_⟩
  intro cs
  rw [List.append_assoc, List.singleton_append, skipText]
  exact well.skipContent_append cs (by simp)

theorem IsNumber.skipNumber_append (number : IsNumber v) (ends : IsEnd cs) :
    skipNumber (v ++ cs) = .ok cs := by
  obtain ⟨m, spells⟩ := number.exists_spellsNumeral
  rw [skipNumber, spells.read_append ends]

/-! ### Where values begin -/

/-- The characters that begin a value. -/
def IsValueHead (c : Char) : Prop :=
  c ∈ ['"', '[', '\x7b', 'n', 't', 'f', '-'] ∨ c.isDigit = true

theorem IsValueHead.shows {c : Char} (head : IsValueHead c) :
    isBlank c = false ∧ c ≠ ']' ∧ c ≠ '\x7d' := by
  rcases head with mem | digit
  · simp only [List.mem_cons, List.not_mem_nil, or_false] at mem
    rcases mem with rfl | rfl | rfl | rfl | rfl | rfl | rfl <;> decide
  · refine ⟨(not_isBlank_of_isDigit digit).1, ?_, ?_⟩ <;> rintro rfl <;>
      exact absurd digit (by decide)

theorem IsNumber.exists_cons (number : IsNumber v) :
    ∃ c tail, v = c :: tail ∧ (c = '-' ∨ c.isDigit = true) := by
  obtain ⟨sign_mem, digits⟩ := number
  obtain ⟨d, ds, rfl⟩ := List.exists_cons_of_ne_nil digits.1
  have digit := digits.2 d List.mem_cons_self
  simp only [List.mem_cons, List.not_mem_nil, or_false] at sign_mem
  rcases sign_mem with rfl | rfl
  · exact ⟨_, _, rfl, .inr digit⟩
  · exact ⟨_, _, rfl, .inl rfl⟩

/-- No other value begins as a number does. -/
theorem numberHead_ne {c : Char} (first : c = '-' ∨ c.isDigit = true) :
    isBlank c = false ∧ c ∉ ['"', '[', '\x7b', 'n', 't', 'f'] := by
  rcases first with rfl | digit
  · decide
  · exact not_isBlank_of_isDigit digit

theorem IsValue.exists_cons (value : IsValue v) : ∃ c tail, v = c :: tail ∧ IsValueHead c := by
  cases value with
  | number number =>
    obtain ⟨c, tail, rfl, head⟩ := number.exists_cons
    exact ⟨c, tail, rfl, head.imp (by rintro rfl; decide) id⟩
  | string string =>
    obtain ⟨content, -, rfl⟩ := string
    exact ⟨_, _, rfl, .inl (by decide)⟩
  | null | «true» | «false» | emptyArray | array | emptyObject | object =>
    exact ⟨_, _, rfl, .inl (by decide)⟩

/-- A blank before a value or a member is skipped once more. -/
theorem skipBlanks_skipBlanks (cs : List Char) : skipBlanks (skipBlanks cs) = skipBlanks cs :=
  List.dropWhile_idempotent _ _

theorem skipWithin_skipBlanks (fuel : ℕ) (cs : List Char) :
    skipWithin fuel (skipBlanks cs) = skipWithin fuel cs := by
  cases fuel with
  | zero => simp only [skipWithin]
  | succ fuel => simp only [skipWithin, skipBlanks_skipBlanks]

theorem skipItems_skipBlanks (fuel : ℕ) (cs : List Char) :
    skipItems fuel (skipBlanks cs) = skipItems fuel cs := by
  cases fuel with
  | zero => simp only [skipItems]
  | succ fuel => simp only [skipItems, skipWithin_skipBlanks]

theorem skipMembers_skipBlanks (fuel : ℕ) (cs : List Char) :
    skipMembers fuel (skipBlanks cs) = skipMembers fuel cs := by
  cases fuel with
  | zero => simp only [skipMembers]
  | succ fuel => simp only [skipMembers, skipMark, skipBlanks_skipBlanks]

/-! ### Values -/

theorem IsItems.skipBlanks_append (items : IsItems cs) (rest : List Char) :
    ∃ c tail, skipBlanks (cs ++ rest) = c :: tail ∧ c ≠ ']' := by
  have begins : ∃ bs v tail, IsBlanks bs ∧ IsValue v ∧ cs = bs ++ (v ++ tail) := by
    cases items with
    | last before value => exact ⟨_, _, _, before, value, by simp only [List.append_assoc]; rfl⟩
    | more before value => exact ⟨_, _, _, before, value, by simp only [List.append_assoc]; rfl⟩
  obtain ⟨bs, v, tail, before, value, rfl⟩ := begins
  obtain ⟨c, v, rfl, head⟩ := value.exists_cons
  obtain ⟨shows, other, -⟩ := head.shows
  refine ⟨c, v ++ (tail ++ rest), ?_, other⟩
  simp only [List.append_assoc, List.cons_append]
  exact skipBlanks_append_cons before shows _

theorem IsMembers.skipBlanks_append (members : IsMembers cs) (rest : List Char) :
    ∃ c tail, skipBlanks (cs ++ rest) = c :: tail ∧ c ≠ '\x7d' := by
  have begins : ∃ bs tail, IsBlanks bs ∧ cs = bs ++ '"' :: tail := by
    cases members with
    | last member =>
      obtain ⟨before, ⟨content, -, rfl⟩⟩ := member
      exact ⟨_, _, before, by simp only [List.append_assoc, List.cons_append]; rfl⟩
    | more member =>
      obtain ⟨before, ⟨content, -, rfl⟩⟩ := member
      exact ⟨_, _, before, by simp only [List.append_assoc, List.cons_append]; rfl⟩
  obtain ⟨bs, tail, before, rfl⟩ := begins
  refine ⟨'"', tail ++ rest, ?_, by decide⟩
  rw [List.append_assoc, List.cons_append]
  exact skipBlanks_append_cons before (by decide) _

theorem skipWithin_array {items rest : List Char} (blanks : IsBlanks bs) (well : IsItems items)
    {fuel : ℕ} (skipped : skipItems fuel (items ++ rest) = .ok rest) :
    skipWithin (fuel + 1) (bs ++ '[' :: (items ++ rest)) = .ok rest := by
  obtain ⟨c, tail, begins, other⟩ := well.skipBlanks_append rest
  rw [← skipItems_skipBlanks, begins] at skipped
  rw [skipWithin, skipBlanks_append_cons blanks (by decide)]
  simp [begins, other, skipped]

theorem skipWithin_object {members rest : List Char} (blanks : IsBlanks bs)
    (well : IsMembers members) {fuel : ℕ}
    (skipped : skipMembers fuel (members ++ rest) = .ok rest) :
    skipWithin (fuel + 1) (bs ++ '\x7b' :: (members ++ rest)) = .ok rest := by
  obtain ⟨c, tail, begins, other⟩ := well.skipBlanks_append rest
  rw [← skipMembers_skipBlanks, begins] at skipped
  rw [skipWithin, skipBlanks_append_cons blanks (by decide)]
  simp [begins, other, skipped]

/-- An item is skipped, and the mark behind it decides how it goes on. -/
theorem skipItems_item_append {bs' rest : List Char} {mark : Char} {fuel : ℕ}
    (behind : IsBlanks bs') (mark_mem : mark ∈ [',', ']'])
    (skipped : skipWithin fuel cs = .ok (bs' ++ mark :: rest)) :
    skipItems (fuel + 1) cs = if mark = ',' then skipItems fuel rest else .ok rest := by
  simp only [List.mem_cons, List.not_mem_nil, or_false] at mark_mem
  rcases mark_mem with rfl | rfl <;>
    simp [skipItems, skipped, skipBlanks_append_cons behind, isBlank, Bind.bind, Except.bind]

/-- A name and its colon are skipped, and the mark behind the value decides how it goes on. -/
theorem skipMembers_member_append {k bs' bs'' rest : List Char} {mark : Char} {fuel : ℕ}
    (before : IsBlanks bs) (key : IsString k) (between : IsBlanks bs') (behind : IsBlanks bs'')
    (mark_mem : mark ∈ [',', '\x7d']) (skipped : skipWithin fuel cs = .ok (bs'' ++ mark :: rest)) :
    skipMembers (fuel + 1) (bs ++ (k ++ (bs' ++ ':' :: cs))) =
      if mark = ',' then skipMembers fuel rest else .ok rest := by
  obtain ⟨tail, rfl, name⟩ := key.skipText_append
  have start := skipMark_append_cons before (by rfl : isBlank '"' = false)
  have colon := skipMark_append_cons between (by rfl : isBlank ':' = false)
  simp only [List.mem_cons, List.not_mem_nil, or_false] at mark_mem
  rcases mark_mem with rfl | rfl <;>
    simp [skipMembers, start, name, colon, skipped, skipBlanks_append_cons behind, isBlank,
      Bind.bind, Except.bind]

mutual

/-- The bound goes down by one with each step, and by two with each level of nesting. -/
theorem IsValue.skipWithin_append {v : List Char} (value : IsValue v) {bs cs : List Char}
    (blanks : IsBlanks bs) (ends : IsEnd cs) (fuel : ℕ) (enough : 2 * v.length ≤ fuel) :
    skipWithin fuel (bs ++ (v ++ cs)) = .ok cs := by
  have pos : v.length ≠ 0 := by
    obtain ⟨c, tail, rfl, -⟩ := value.exists_cons
    exact Nat.succ_ne_zero _
  obtain ⟨fuel, rfl⟩ := Nat.exists_eq_add_one_of_ne_zero (n := fuel) (by omega)
  match value with
  | .null | .true | .false =>
    simp [skipWithin, skipBlanks_append_cons blanks, isBlank, skipWord]
  | .number well =>
    have skipped := well.skipNumber_append ends
    obtain ⟨c, tail, rfl, first⟩ := well.exists_cons
    obtain ⟨shows, others⟩ := numberHead_ne first
    simp only [List.mem_cons, not_or] at others
    rw [skipWithin, List.cons_append, skipBlanks_append_cons blanks shows]
    simpa [others, first] using skipped
  | .string well =>
    obtain ⟨tail, rfl, skipped⟩ := well.skipText_append
    simp [skipWithin, skipBlanks_append_cons blanks, isBlank, skipped]
  | .emptyArray within =>
    simp [skipWithin, skipBlanks_append_cons blanks, skipBlanks_append_cons within, isBlank]
  | .array well =>
    rw [List.length_cons] at enough
    exact skipWithin_array blanks well (well.skipItems_append cs fuel (by omega))
  | .emptyObject within =>
    simp [skipWithin, skipBlanks_append_cons blanks, skipBlanks_append_cons within, isBlank]
  | .object well =>
    rw [List.length_cons] at enough
    exact skipWithin_object blanks well (well.skipMembers_append cs fuel (by omega))

theorem IsItems.skipItems_append {items : List Char} (well : IsItems items) (rest : List Char)
    (fuel : ℕ) (enough : 2 * items.length ≤ fuel) : skipItems fuel (items ++ rest) = .ok rest := by
  match well with
  | .last before value behind =>
    simp only [List.length_append, List.length_singleton] at enough
    obtain ⟨fuel, rfl⟩ := Nat.exists_eq_add_one_of_ne_zero (n := fuel) (by omega)
    have ends := IsEnd.append_cons (c := ']') behind (by decide) rest
    have skipped := value.skipWithin_append before ends fuel (by omega)
    simpa using skipItems_item_append behind (by decide) skipped
  | @IsItems.more _ _ _ others before value behind items =>
    simp only [List.length_append, List.length_cons] at enough
    obtain ⟨fuel, rfl⟩ := Nat.exists_eq_add_one_of_ne_zero (n := fuel) (by omega)
    have ends := IsEnd.append_cons (c := ',') behind (by decide) (others ++ rest)
    have skipped := value.skipWithin_append before ends fuel (by omega)
    have rest_skipped := items.skipItems_append rest fuel (by omega)
    simpa [rest_skipped] using skipItems_item_append behind (by decide) skipped

theorem IsMembers.skipMembers_append {members : List Char} (well : IsMembers members)
    (rest : List Char) (fuel : ℕ) (enough : 2 * members.length ≤ fuel) :
    skipMembers fuel (members ++ rest) = .ok rest := by
  match well with
  | .last (.mk before key between between' value behind) =>
    simp only [List.length_append, List.length_cons, List.length_nil] at enough
    obtain ⟨fuel, rfl⟩ := Nat.exists_eq_add_one_of_ne_zero (n := fuel) (by omega)
    have ends := IsEnd.append_cons (c := '\x7d') behind (by decide) rest
    have skipped := value.skipWithin_append between' ends fuel (by omega)
    simpa using skipMembers_member_append before key between behind (by decide) skipped
  | @IsMembers.more _ others (.mk before key between between' value behind) members =>
    simp only [List.length_append, List.length_cons] at enough
    obtain ⟨fuel, rfl⟩ := Nat.exists_eq_add_one_of_ne_zero (n := fuel) (by omega)
    have ends := IsEnd.append_cons (c := ',') behind (by decide) (others ++ rest)
    have skipped := value.skipWithin_append between' ends fuel (by omega)
    have rest_skipped := members.skipMembers_append rest fuel (by omega)
    have member := skipMembers_member_append before key between behind (by decide) skipped
    simpa [rest_skipped] using member

end

theorem IsValue.skipValue_append (value : IsValue v) (blanks : IsBlanks bs) (ends : IsEnd cs) :
    skipValue (bs ++ (v ++ cs)) = .ok cs := by
  rw [skipValue]
  exact value.skipWithin_append blanks ends _ (by simp; omega)

end Floodgate.Json
