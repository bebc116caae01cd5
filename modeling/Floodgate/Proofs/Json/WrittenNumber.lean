import Floodgate.Proofs.Json.Judging
import Floodgate.Proofs.Json.Numeral
import Floodgate.Proofs.Json.Scaling

/-!
# Numbers as they are written

The text of a number shows its shortest digits. Where the point stands and how many zeros fill the
gap are made up for by the power of ten that the digits are counted in; only the zero behind the
point of a whole number counts as one more digit.

## Main definitions

* `Numeral.significand`, `Numeral.power` — all digits of a number and what they are counted in
* `Numeral.Shows` — a number shows some digits

## Main results

* `Numeral.value_eq_real` — numbers with a point or an exponent are scaled
* `exists_shows_write` — the layout of digits shows them
* `exists_value_writeNumber` — what a written number is read as
-/

namespace Floodgate.Json

open Binary64

variable {ds es v : List Char} {d k r : ℕ} {e g : ℤ} {m : Numeral}

namespace Numeral

/-- The number that all digits spell, whatever the place of the point. -/
def significand (m : Numeral) : ℕ := Decimal.value (m.whole ++ m.fraction)

/-- The power of ten that an exponent names. -/
def exponentValue : Option (Bool × List Char) → ℤ
  | none => 0
  | some (true, ds) => -Decimal.value ds
  | some (false, ds) => Decimal.value ds

/-- The power of ten that the digits are counted in. -/
def power (m : Numeral) : ℤ := exponentValue m.exponent - m.fraction.length

theorem extended_value (ds es : List Char) :
    extended (Decimal.value ds) es = Decimal.value (ds ++ es) := by
  rw [extended, Decimal.value, Decimal.value, List.foldl_append]

/-- A number with a point or an exponent is its digits scaled by their power of ten, if the digits
have 64 bits and the exponent is one that is counted with. -/
theorem value_eq_real (fits : m.significand < 2 ^ 64) (real : m.exponent = none → m.fraction ≠ [])
    (near : ∀ down es, m.exponent = some (down, es) → Decimal.value es ≤ greatestExponent) :
    m.value = Numeral.real m.negative m.significand m.power := by
  obtain ⟨negative, whole, fraction, exponent⟩ := m
  have total : extended (Decimal.value whole) fraction < 2 ^ 64 := by
    rw [extended_value]
    exact fits
  -- The digits before the point are fewer, so none is dropped on either side of it.
  have first : extended 0 whole < 2 ^ 64 := (le_extended _ fraction).trans_lt total
  have absorbed : absorb 0 whole = (Decimal.value whole, 0) := absorb_of_lt first
  have absorbed' : absorb (Decimal.value whole) fraction =
      (Decimal.value (whole ++ fraction), 0) := by
    rw [absorb_of_lt total, extended_value]
  cases exponent with
  | none =>
    have point : fraction ≠ [] := real rfl
    simp [value, absorbed, absorbed', point, significand, power, exponentValue]
  | some p =>
    obtain ⟨down, es⟩ := p
    have small : ¬greatestExponent < Decimal.value es := not_lt.2 (near down es rfl)
    cases down <;>
      simp [value, absorbed, absorbed', small, significand, power, exponentValue] <;> ring_nf

/-- The number shows the digits `ds`, counted in `10 ^ g`, with at most a zero behind the point. -/
structure Shows (ds : List Char) (g : ℤ) (m : Numeral) : Prop where
  positive : m.negative = false
  real : m.exponent = none → m.fraction ≠ []
  near : ∀ down es, m.exponent = some (down, es) → Decimal.value es = (g + ds.length - 1).natAbs
  counted : (m.significand = Decimal.value ds ∧ m.power = g) ∨
    (0 ≤ g ∧ g + ds.length ≤ 16 ∧ m.significand = Decimal.value ds * 10 ^ (g.toNat + 1) ∧
      m.power = -1)

/-- A point has as many digits behind it as the power of ten says. -/
theorem Shows.of_point {whole fs : List Char} (real : fs ≠ [])
    (same : Decimal.value (whole ++ fs) = Decimal.value ds) (length : g = -(fs.length : ℤ)) :
    Shows ds g ⟨false, whole, fs, none⟩ where
  positive := rfl
  real _ := real
  near down es none := by cases none
  counted := .inl ⟨same, by rw [power, exponentValue, zero_sub, length]⟩

end Numeral

/-! ### Layouts -/

theorem value_zeros_append (k : ℕ) (ds : List Char) :
    Decimal.value (List.replicate k '0' ++ ds) = Decimal.value ds := by
  induction k with
  | zero => rfl
  | succ k ih => exact ih

theorem value_append_zeros (ds : List Char) (k : ℕ) :
    Decimal.value (ds ++ List.replicate k '0') = Decimal.value ds * 10 ^ k := by
  induction k with
  | zero => rw [List.replicate_zero, List.append_nil, pow_zero, mul_one]
  | succ k ih =>
    have zero : Decimal.digitValue '0' = 0 := rfl
    rw [List.replicate_succ', ← List.append_assoc, Decimal.value_append_singleton, ih, zero,
      pow_succ]
    ring

theorem isDigits_zero : IsDigits ['0'] := by simp [IsDigits]

theorem isDigit_of_mem_zeros {c : Char} (mem : c ∈ List.replicate k '0') : c.isDigit = true := by
  rw [List.eq_of_mem_replicate mem]
  decide

theorem isDigits_zeros_append (k : ℕ) (digits : IsDigits ds) :
    IsDigits (List.replicate k '0' ++ ds) := by
  refine ⟨by simp [digits.1], ?_⟩
  exact List.forall_mem_append.2 ⟨fun _ => isDigit_of_mem_zeros, digits.2⟩

theorem isDigits_append_zeros (digits : IsDigits ds) (k : ℕ) :
    IsDigits (ds ++ List.replicate k '0') := by
  refine ⟨by simp [digits.1], ?_⟩
  exact List.forall_mem_append.2 ⟨digits.2, fun _ => isDigit_of_mem_zeros⟩

theorem spellsNumeral_of_positive {whole fs fraction exponent : List Char}
    {x : Option (Bool × List Char)} (digits : IsDigits whole)
    (padded : whole.head? = some '0' → whole.length = 1)
    (spells_fraction : SpellsFraction fraction fs) (spells_exponent : SpellsExponent exponent x)
    (text : v = whole ++ (fraction ++ exponent)) : SpellsNumeral v ⟨false, whole, fs, x⟩ := by
  rw [text]
  exact @SpellsNumeral.mk [] _ _ _ _ _ _ (by decide) digits padded spells_fraction spells_exponent

section Layouts

variable (digits : IsDigits ds) (head : ds.head? ≠ some '0')

/-- Digits behind the point. -/
theorem exists_shows_fraction (digits : IsDigits ds) (k : ℕ) :
    ∃ m, SpellsNumeral (numberLayout.plain ds (-(k : ℤ))) m ∧
      m.Shows ds (-(k : ℤ) - ds.length) := by
  have text : numberLayout.plain ds (-(k : ℤ)) = '0' :: '.' :: (List.replicate k '0' ++ ds) := by
    cases k <;> rfl
  have fraction := isDigits_zeros_append k digits
  refine ⟨⟨false, ['0'], List.replicate k '0' ++ ds, none⟩, ?_, .of_point fraction.1 ?_ ?_⟩
  · apply spellsNumeral_of_positive isDigits_zero (fun _ => rfl) (.present fraction) .absent
    rw [text, List.append_nil]
    rfl
  · exact value_zeros_append (k + 1) ds
  · rw [List.length_append, List.length_replicate]
    omega

include digits head

/-- Digits on both sides of the point. -/
theorem exists_shows_split (pos : 0 < k) (less : k < ds.length) :
    ∃ m, SpellsNumeral (numberLayout.plain ds (k : ℤ)) m ∧ m.Shows ds (k - ds.length) := by
  obtain ⟨k, rfl⟩ := Nat.exists_eq_add_one_of_ne_zero pos.ne'
  have text : numberLayout.plain ds ((k + 1 : ℕ) : ℤ) = ds.take (k + 1) ++ '.' :: ds.drop (k + 1) :=
    if_neg (not_le.2 less)
  have whole : IsDigits (ds.take (k + 1)) :=
    ⟨by simp [digits.1], fun d mem => digits.2 d (List.mem_of_mem_take mem)⟩
  have fraction : IsDigits (ds.drop (k + 1)) :=
    ⟨by simp [less], fun d mem => digits.2 d (List.mem_of_mem_drop mem)⟩
  refine ⟨⟨false, ds.take (k + 1), ds.drop (k + 1), none⟩, ?_, .of_point fraction.1 ?_ ?_⟩
  · apply spellsNumeral_of_positive whole ?_ (.present fraction) .absent
    · rw [text, List.append_nil]
    · intro first
      rw [List.head?_take, if_neg (Nat.succ_ne_zero k)] at first
      exact absurd first head
  · rw [List.take_append_drop]
  · rw [List.length_drop]
    omega

/-- Digits in front of the point, with zeros to it and one behind it. -/
theorem exists_shows_whole (le : ds.length ≤ k) (few : k ≤ 16) :
    ∃ m, SpellsNumeral (numberLayout.plain ds (k : ℤ)) m ∧ m.Shows ds (k - ds.length) := by
  have one : 0 < ds.length := List.length_pos_iff.2 digits.1
  obtain ⟨k, rfl⟩ := Nat.exists_eq_add_one_of_ne_zero (by omega : k ≠ 0)
  have text : numberLayout.plain ds ((k + 1 : ℕ) : ℤ) =
      ds ++ List.replicate (k + 1 - ds.length) '0' ++ ['.', '0'] := if_pos le
  -- With the zero behind the point the number is counted in tenths.
  have whole := isDigits_append_zeros digits (k + 1 - ds.length)
  have power : (((k + 1 : ℕ) : ℤ) - ds.length).toNat = k + 1 - ds.length := by omega
  refine ⟨⟨false, ds ++ List.replicate (k + 1 - ds.length) '0', ['0'], none⟩, ?_, rfl, ?_, ?_,
    .inr ⟨by omega, by omega, ?_, ?_⟩⟩
  · apply spellsNumeral_of_positive whole ?_ (.present isDigits_zero) .absent
    · rw [text, List.append_nil]
    · intro first
      rw [List.head?_append_of_ne_nil _ digits.1] at first
      exact absurd first head
  · exact fun _ => isDigits_zero.1
  · intro down es none
    cases none
  · rw [Numeral.significand, power, List.append_assoc, ← List.replicate_succ', value_append_zeros]
  · rfl

/-- The point behind the first digit, and an exponent. -/
theorem exists_shows_scientific (e : ℤ) :
    ∃ m, SpellsNumeral (numberLayout.scientific ds e) m ∧ m.Shows ds (e + 1 - ds.length) := by
  obtain ⟨d, rest, rfl⟩ := List.exists_cons_of_ne_nil digits.1
  have first : IsDigits [d] := ⟨by simp, fun c mem => digits.2 c (by simp_all)⟩
  have exponent : SpellsExponent
      ('e' :: (if e < 0 then ['-'] else ['+']) ++ Decimal.digits e.natAbs)
      (some (decide (e < 0), Decimal.digits e.natAbs)) := by
    refine .present (by decide) ?_ (isDigits_digits _)
    split_ifs with down <;> simp [down]
  have fraction : SpellsFraction (if rest = [] then [] else '.' :: rest) rest := by
    split_ifs with none
    · rw [none]
      exact .absent
    · exact .present ⟨none, fun c mem => digits.2 c (List.mem_cons_of_mem d mem)⟩
  refine ⟨⟨false, [d], rest, some (decide (e < 0), Decimal.digits e.natAbs)⟩, ?_, rfl, ?_, ?_,
    .inl ⟨rfl, ?_⟩⟩
  · apply spellsNumeral_of_positive first (fun _ => rfl) fraction exponent
    cases rest <;> simp [Binary64.Layout.scientific, numberLayout]
  · intro none
    cases none
  · intro down es same
    obtain ⟨-, rfl⟩ := Prod.mk.inj (Option.some.inj same)
    rw [Decimal.value_digits, List.length_cons]
    congr 1
    omega
  · have length : ((d :: rest).length : ℤ) = rest.length + 1 := by simp
    by_cases down : e < 0
    · simp only [Numeral.power, Numeral.exponentValue, down, decide_true, Decimal.value_digits,
        length]
      omega
    · simp only [Numeral.power, Numeral.exponentValue, down, decide_false, Decimal.value_digits,
        length]
      omega

/-- A layout shows the digits that are laid out. -/
theorem exists_shows_write (g : ℤ) :
    ∃ m, SpellsNumeral (numberLayout.write ds g) m ∧ m.Shows ds g := by
  unfold Binary64.Layout.write
  dsimp only
  split_ifs with plain
  · have few : g + ds.length - 1 ≤ 15 := by
      simp [Binary64.Layout.isPlain, numberLayout] at plain
      omega
    rcases le_or_gt (g + ds.length) 0 with behind | before
    · obtain ⟨k, point⟩ := Int.exists_eq_neg_ofNat behind
      have shown := exists_shows_fraction digits k
      rwa [← point, add_sub_cancel_right] at shown
    · obtain ⟨k, point⟩ := Int.eq_ofNat_of_zero_le before.le
      rcases lt_or_ge k ds.length with split | whole
      · have shown := exists_shows_split digits head (by omega) split
        rwa [← point, add_sub_cancel_right] at shown
      · have shown := exists_shows_whole digits head whole (by omega)
        rwa [← point, add_sub_cancel_right] at shown
  · have shown := exists_shows_scientific digits head (g + ds.length - 1)
    rwa [sub_add_cancel, add_sub_cancel_right] at shown

end Layouts

/-! ### Written numbers -/

theorem value_lt (digits : ∀ d ∈ ds, d.isDigit = true) : Decimal.value ds < 10 ^ ds.length := by
  induction ds using List.reverseRecOn with
  | nil => decide
  | append_singleton ds d ih =>
    have small := Decimal.digitValue_lt (digits d (by simp))
    have others := ih fun c mem => digits c (by simp [mem])
    rw [Decimal.value_append_singleton, List.length_append, List.length_singleton, pow_succ]
    omega

/-- What a number that shows the shortest digits of a magnitude is scaled to. -/
theorem Numeral.Shows.scalesTo (pos : 0 < r) (finite : r < 2047 * 2 ^ 52)
    (shown : m.Shows (Decimal.digits (shortest r).1) (shortest r).2) :
    m.significand < 2 ^ 64 ∧ NearestDecimal m.significand m.power r ∧
      ScalesTo m.significand m.power r := by
  have near := nearestDecimal_shortest pos finite
  have small : (shortest r).1 < 2 ^ 64 := (shortest_lt pos finite).trans (by decide)
  rcases shown.counted with ⟨significand, power⟩ | ⟨nonneg, few, significand, power⟩
  · rw [significand, power, Decimal.value_digits]
    exact ⟨small, near, scalesTo_shortest pos finite⟩
  · -- A whole number with one digit behind its point has seventeen digits at most.
    have length := value_lt (isDigits_digits (shortest r).1).2
    rw [Decimal.value_digits] at significand length
    have near' := near.tenths nonneg
    have bound : (shortest r).1 * 10 ^ ((shortest r).2.toNat + 1) < 2 ^ 64 := by
      calc (shortest r).1 * 10 ^ ((shortest r).2.toNat + 1)
          < 10 ^ (Decimal.digits (shortest r).1).length * 10 ^ ((shortest r).2.toNat + 1) :=
            Nat.mul_lt_mul_of_pos_right length (ten_pow_pos _)
        _ = 10 ^ ((Decimal.digits (shortest r).1).length + ((shortest r).2.toNat + 1)) :=
            (pow_add _ _ _).symm
        _ ≤ 10 ^ 17 := Nat.pow_le_pow_right (by decide) (by omega)
        _ < 2 ^ 64 := by decide
    have pos' : 0 < (shortest r).1 * 10 ^ ((shortest r).2.toNat + 1) :=
      Nat.mul_pos (shortest_pos pos finite) (ten_pow_pos _)
    -- The numbers next to zero and to infinity are not laid out like this.
    have inner : ¬(r = 1 ∨ r = 2 ∨ r = 2047 * 2 ^ 52 - 2 ∨ r = 2047 * 2 ^ 52 - 1) := by
      intro ends
      rcases shortest_snd_of_end ends with negative | great <;> omega
    rw [significand, power]
    exact ⟨bound, near', (scalesNear pos' bound (by decide) (by decide)).scalesTo near'
      (by omega) (by omega)⟩

/-- The text of a positive number is read as a positive number whose rank is at most two away, and
as that number itself if its digits are few and counted in a small power of ten. -/
theorem exists_value_writeNumber (pos : 0 < r) (finite : r < 2047 * 2 ^ 52) :
    ∃ m r', SpellsNumeral (writeNumber (.finite false r finite)) m ∧
      m.value = some (.real (ofRank false r')) ∧ 0 < r' ∧ r' < 2047 * 2 ^ 52 ∧ r' ≤ r + 2 ∧
      r ≤ r' + 2 ∧ (m.significand < 2 ^ 53 → m.power.natAbs < 23 → r' = r) := by
  have text : writeNumber (.finite false r finite) =
      numberLayout.write (Decimal.digits (shortest r).1) (shortest r).2 := by
    simp [writeNumber, Binary64.write, pos.ne']
  have digits_pos := shortest_pos pos finite
  have head : (Decimal.digits (shortest r).1).head? ≠ some '0' := by
    intro zero
    obtain ⟨c, single⟩ := List.length_eq_one_iff.1 (Decimal.length_digits_of_head zero)
    rw [single, List.head?_cons, Option.some.injEq] at zero
    have value := Decimal.value_digits (shortest r).1
    rw [single, zero] at value
    exact digits_pos.ne value
  -- The digits do not begin with a zero, as the grammar wants it.
  obtain ⟨m, spells, shown⟩ := exists_shows_write (isDigits_digits (shortest r).1) head
    (shortest r).2
  obtain ⟨fits, near, r', scale, pos', finite', above, below⟩ := shown.scalesTo pos finite
  have exponents : ∀ down es, m.exponent = some (down, es) →
      Decimal.value es ≤ Numeral.greatestExponent := by
    intro down es same
    have length := Decimal.positional.length_digits_le (by decide : 0 < 18)
      ((shortest_lt pos finite).trans (by decide : 10 * 2 ^ 54 < 10 ^ 18))
    have least := le_shortest_snd pos finite
    have greatest := shortest_snd_le pos finite
    rw [shown.near down es same, Numeral.greatestExponent]
    omega
  have value := Numeral.value_eq_real fits shown.real exponents
  rw [shown.positive, Numeral.real] at value
  rw [text]
  -- Both ways give a rank; when the digits are few it is known to be the same.
  by_cases short : m.significand < 2 ^ 53 ∧ m.power.natAbs < 23
  · rw [Numeral.scale_exact short.1 short.2 near finite] at value
    exact ⟨m, r, spells, value, pos, finite, by omega, by omega, fun _ _ => rfl⟩
  · rw [scale] at value
    exact ⟨m, r', spells, value, pos', finite', above, below, fun a b => absurd ⟨a, b⟩ short⟩

end Floodgate.Json
