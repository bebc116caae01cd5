import Mathlib.Data.List.Basic
import Mathlib.Tactic.Linarith
import Mathlib.Tactic.Ring
import Floodgate.Proofs.Json.Reading
import Floodgate.Time.SpanText

/-!
# Spans are read back as they are written

The text of a span is a row of items with single spaces between them. The reader adds them up one
after the other, each within 64 bits, and together they make the span again.

## Main definitions

* `Span.Item` — a number, a unit and the name that the unit is written by
* `Span.itemsOf` — what a span is made of

## Main results

* `Span.plus_eq_ok`, `Span.plusWhole_eq_ok` — what fits is added exactly
* `Span.readFrom_items` — a row of items is read as their sum
* `Span.read_write` — every span is read back from its text
-/

namespace Floodgate.Span

open Json (extended)

variable {t : Span} {cs ds name reversed : List Char} {n s o base : ℕ} {u : TimeUnit}
  {first : Bool} {f : Option Fraction}

theorem toNanos_injective : Function.Injective toNanos := by
  intro a b same
  obtain ⟨s, n, n_lt⟩ := a
  obtain ⟨s', n', n'_lt⟩ := b
  simp only [toNanos, nanosPerSecond] at same n_lt n'_lt
  obtain rfl : s = s' := UInt64.toNat_inj.1 (by omega)
  obtain rfl : n = n' := by omega
  rfl

theorem toNanos_lt (d : Span) : d.toNanos < 2 ^ 64 * nanosPerSecond := by
  have seconds := d.seconds.toNat_lt
  have nanos := d.nanos_lt
  simp only [toNanos, nanosPerSecond] at *
  omega

/-! ### Adding up -/

theorem fit_eq_ok (small : n < 2 ^ 64) : fit n = .ok n := if_pos small

theorem exists_carry?_eq (fits : s * nanosPerSecond + n < 2 ^ 64 * nanosPerSecond) :
    ∃ d, carry? s n = some d ∧ d.toNanos = s * nanosPerSecond + n := by
  have whole : s + n / nanosPerSecond < 2 ^ 64 := by
    simp only [nanosPerSecond] at *
    omega
  exact ⟨_, if_pos whole, toNanos_of_carry? (if_pos whole)⟩

theorem fit_seconds (fits : s * nanosPerSecond + n < 2 ^ 64 * nanosPerSecond) :
    fit s = .ok s := by
  apply fit_eq_ok
  simp only [nanosPerSecond] at fits
  omega

/-- What fits is added exactly, full seconds of nanoseconds carried. -/
theorem plus_eq_ok (small : n < 2 ^ 63)
    (fits : t.toNanos + (s * nanosPerSecond + n) < 2 ^ 64 * nanosPerSecond) :
    ∃ t', t.plus s n = .ok t' ∧ t'.toNanos = t.toNanos + (s * nanosPerSecond + n) := by
  have nanos_lt := t.nanos_lt
  have together : fit (t.nanos + n) = .ok (t.nanos + n) := by
    simp only [nanosPerSecond] at nanos_lt
    exact fit_eq_ok (by omega)
  unfold plus
  rw [toNanos] at fits ⊢
  by_cases full : nanosPerSecond < t.nanos + n
  · -- Full seconds move over before the seconds are added.
    have parts := Nat.div_add_mod (t.nanos + n) nanosPerSecond
    have total : (t.seconds.toNat + (s + (t.nanos + n) / nanosPerSecond)) * nanosPerSecond +
        (t.nanos + n) % nanosPerSecond =
          t.seconds.toNat * nanosPerSecond + t.nanos + (s * nanosPerSecond + n) := by
      rw [mul_comm nanosPerSecond] at parts
      linarith
    rw [← total] at fits ⊢
    obtain ⟨d, carried, nanos⟩ := exists_carry?_eq fits
    have seconds := fit_seconds fits
    refine ⟨d, ?_, nanos⟩
    simp [together, full, seconds, carried, Bind.bind, Except.bind]
  · have total : (t.seconds.toNat + s) * nanosPerSecond + (t.nanos + n) =
        t.seconds.toNat * nanosPerSecond + t.nanos + (s * nanosPerSecond + n) := by ring
    rw [← total] at fits ⊢
    obtain ⟨d, carried, nanos⟩ := exists_carry?_eq fits
    have seconds := fit_seconds fits
    refine ⟨d, ?_, nanos⟩
    simp [together, full, seconds, carried, Bind.bind, Except.bind]

/-- Units that are counted in seconds are whole seconds. -/
theorem unit_nanos_eq_mul (whole : u.wholeInNanos = false) :
    u.nanos = u.nanos / nanosPerSecond * nanosPerSecond := by
  cases u <;> first | rfl | cases whole

/-- Whole numbers of a unit that fit are added exactly. -/
theorem plusWhole_eq_ok (few : u.wholeInNanos = true → n * u.nanos < 2 ^ 63)
    (fits : t.toNanos + n * u.nanos < 2 ^ 64 * nanosPerSecond) :
    ∃ t', t.plusWhole n u = .ok t' ∧ t'.toNanos = t.toNanos + n * u.nanos := by
  unfold plusWhole
  cases whole : u.wholeInNanos with
  | true =>
    have small := few whole
    have added : fit (n * u.nanos) = .ok (n * u.nanos) := fit_eq_ok (by omega)
    obtain ⟨t', sum, nanos⟩ := @plus_eq_ok t (n * u.nanos) 0 small (by simpa using fits)
    refine ⟨t', ?_, by simpa using nanos⟩
    simp [added, sum, Bind.bind, Except.bind]
  | false =>
    have seconds : n * u.nanos = n * (u.nanos / nanosPerSecond) * nanosPerSecond + 0 := by
      rw [add_zero, mul_assoc, ← unit_nanos_eq_mul whole]
    rw [seconds] at fits ⊢
    have added := fit_seconds ((Nat.le_add_left _ _).trans_lt fits)
    obtain ⟨t', sum, nanos⟩ := plus_eq_ok (by decide) fits
    refine ⟨t', ?_, nanos⟩
    simp [added, sum, Bind.bind, Except.bind]

/-! ### Reading items -/

/-- The digits of a number are read to their end. -/
theorem readFrom_digits (digits : ∀ d ∈ ds, d.isDigit = true) (small : extended n ds < 2 ^ 64) :
    ∃ o', readFrom (ds ++ cs) o (.whole n) t = readFrom cs o' (.whole (extended n ds)) t := by
  induction ds generalizing n o with
  | nil => exact ⟨o, rfl⟩
  | cons d ds ih =>
    obtain ⟨digit, digits⟩ := List.forall_mem_cons.1 digits
    have fits : fit (10 * n + Decimal.digitValue d) = .ok (10 * n + Decimal.digitValue d) :=
      fit_eq_ok ((Json.le_extended _ ds).trans_lt small)
    obtain ⟨o', read⟩ := @ih (10 * n + Decimal.digitValue d) (o + d.utf8Size) digits small
    refine ⟨o', ?_⟩
    rw [List.cons_append, readFrom]
    simp only [digit, if_true, fits]
    exact read

theorem readFrom_number (small : n < 2 ^ 64) :
    ∃ o', readFrom (Decimal.digits n ++ cs) o (.start base first) t =
      readFrom cs o' (.whole n) t := by
  have value := Decimal.value_digits n
  cases digits : Decimal.digits n with
  | nil => exact absurd digits (Decimal.digits_ne_nil n)
  | cons d ds =>
    have all : ∀ c ∈ d :: ds, c.isDigit = true := fun c mem =>
      Decimal.isDigit_of_mem_digits (digits ▸ mem)
    obtain ⟨digit, others⟩ := List.forall_mem_cons.1 all
    -- The first digit begins the number, and the others extend it.
    have same : extended (Decimal.digitValue d) ds = n := by
      rw [digits, Decimal.value, List.foldl_cons] at value
      simpa [extended] using value
    obtain ⟨o', read⟩ := @readFrom_digits t cs ds (Decimal.digitValue d) (o + d.utf8Size) others
      (same ▸ small)
    refine ⟨o', ?_⟩
    rw [List.cons_append, readFrom]
    simp only [digit, if_true]
    rw [read, same]

/-- A character of a unit's name, which no number and no item begins with. -/
structure IsNameChar (c : Char) : Prop where
  unit : isUnitChar c = true
  digit : c.isDigit = false
  blank : isBlank c = false

theorem readFrom_name (chars : ∀ c ∈ name, IsNameChar c) :
    ∃ o', readFrom (name ++ cs) o (.name n f reversed) t =
      readFrom cs o' (.name n f (name.reverse ++ reversed)) t := by
  induction name generalizing o reversed with
  | nil => exact ⟨o, rfl⟩
  | cons c name ih =>
    obtain ⟨char, chars⟩ := List.forall_mem_cons.1 chars
    obtain ⟨o', read⟩ := @ih (c :: reversed) (o + c.utf8Size) chars
    refine ⟨o', ?_⟩
    rw [List.cons_append, readFrom]
    simp [char.unit, char.digit, char.blank, read]

/-- A number and the name of its unit as they are written. -/
structure Item where
  count : ℕ
  unit : TimeUnit
  name : List Char

namespace Item

/-- The text of an item. -/
def text (i : Item) : List Char := Decimal.digits i.count ++ i.name

/-- What an item counts, in nanoseconds. -/
def nanos (i : Item) : ℕ := i.count * i.unit.nanos

/-- The reader knows the name, and number and product have 64 bits. -/
structure Readable (i : Item) : Prop where
  count_lt : i.count < 2 ^ 64
  few : i.unit.wholeInNanos = true → i.nanos < 2 ^ 63
  named : TimeUnit.ofName? i.name = some i.unit
  ne_nil : i.name ≠ []
  chars : ∀ c ∈ i.name, IsNameChar c

variable {i : Item}

theorem Readable.readFrom_text (readable : i.Readable) :
    ∃ o', readFrom (i.text ++ cs) o (.start base first) t =
      readFrom cs o' (.name i.count none i.name.reverse) t := by
  obtain ⟨c, name, split⟩ := List.exists_cons_of_ne_nil readable.ne_nil
  have chars := readable.chars
  rw [split] at chars
  obtain ⟨char, chars⟩ := List.forall_mem_cons.1 chars
  obtain ⟨o₁, number⟩ := @readFrom_number t (i.name ++ cs) i.count o base first readable.count_lt
  obtain ⟨o₂, rest⟩ := @readFrom_name t cs name [c] i.count (o₁ + c.utf8Size) none chars
  refine ⟨o₂, ?_⟩
  rw [text, List.append_assoc, number, split, List.cons_append, readFrom]
  simp [char.unit, char.digit, char.blank, rest]

/-- An item that fits is added exactly. -/
theorem Readable.plusItem_eq_ok (readable : i.Readable)
    (fits : t.toNanos + i.nanos < 2 ^ 64 * nanosPerSecond) :
    ∃ t', t.plusItem i.count none i.name = .ok t' ∧ t'.toNanos = t.toNanos + i.nanos := by
  obtain ⟨t', sum, nanos⟩ := plusWhole_eq_ok readable.few fits
  refine ⟨t', ?_, nanos⟩
  simp [plusItem, readable.named, sum, Bind.bind, Except.bind]

end Item

/-- A row of items is read as their sum. -/
theorem readFrom_items {is : List Item} (readable : ∀ i ∈ is, i.Readable) (ne_nil : is ≠ [])
    (fits : t.toNanos + (is.map Item.nanos).sum < 2 ^ 64 * nanosPerSecond) :
    ∃ t', readFrom ([' '].intercalate (is.map Item.text)) o (.start base first) t = .ok t' ∧
      t'.toNanos = t.toNanos + (is.map Item.nanos).sum := by
  induction is generalizing t o base first with
  | nil => exact absurd rfl ne_nil
  | cons i is ih =>
    obtain ⟨here, readable⟩ := List.forall_mem_cons.1 readable
    have total : t.toNanos + ((i :: is).map Item.nanos).sum =
        t.toNanos + i.nanos + (is.map Item.nanos).sum := (add_assoc _ _ _).symm
    rw [total] at fits ⊢
    obtain ⟨t₁, sum, nanos⟩ := here.plusItem_eq_ok ((Nat.le_add_right _ _).trans_lt fits)
    rw [← nanos] at fits ⊢
    cases is with
    | nil =>
      obtain ⟨o', read⟩ := @Item.Readable.readFrom_text t [] o base first i here
      refine ⟨t₁, ?_, by simp⟩
      rw [List.append_nil] at read
      simp [List.intercalate, read, readFrom, sum]
    | cons j js =>
      -- The space ends the item, which is added before the next one is read.
      obtain ⟨rest, hrest⟩ : ∃ rest, rest = [' '].intercalate ((j :: js).map Item.text) := ⟨_, rfl⟩
      obtain ⟨o', read⟩ := @Item.Readable.readFrom_text t (' ' :: rest) o base first i here
      obtain ⟨t₂, read', nanos'⟩ := @ih t₁ (o' + ' '.utf8Size) (o' + ' '.utf8Size) false readable
        (List.cons_ne_nil j js) fits
      refine ⟨t₂, ?_, nanos'⟩
      have text : [' '].intercalate ((i :: j :: js).map Item.text) = i.text ++ ' ' :: rest := by
        rw [hrest, List.map_cons, List.map_cons, List.intercalate_cons_cons, List.append_assoc]
        rfl
      rw [← hrest] at read'
      rw [text, read, readFrom]
      have space : isBlank ' ' = true := by decide
      have digit : ' '.isDigit = false := by decide
      simpa [space, digit, sum, Bind.bind, Except.bind] using read'

/-! ### Writing items -/

/-- The item of a number whose unit has a name for one and a name for more. -/
def itemOf (n : ℕ) (u : TimeUnit) (one many : String) : Item :=
  ⟨n, u, (if n = 1 then one else many).toList⟩

/-- What a span is made of, greatest unit first. -/
def itemsOf (d : Span) : List Item :=
  let inYear := d.seconds.toNat % 31557600
  let inMonth := inYear % 2630016
  let inDay := inMonth % 86400
  [itemOf (d.seconds.toNat / 31557600) .year "year" "years",
    itemOf (inYear / 2630016) .month "month" "months",
    itemOf (inMonth / 86400) .day "day" "days", itemOf (inDay / 3600) .hour "h" "h",
    itemOf (inDay % 3600 / 60) .minute "m" "m", itemOf (inDay % 60) .second "s" "s",
    itemOf (d.nanos / 1000000) .millisecond "ms" "ms",
    itemOf (d.nanos / 1000 % 1000) .microsecond "us" "us",
    itemOf (d.nanos % 1000) .nanosecond "ns" "ns"]

/-- Items with a number other than zero are written. -/
theorem map_text_filter_cons (n : ℕ) (u : TimeUnit) (one many : String) (is : List Item) :
    ((itemOf n u one many :: is).filter (·.count ≠ 0)).map Item.text =
      item n one many ++ (is.filter (·.count ≠ 0)).map Item.text := by
  by_cases zero : n = 0 <;> simp [item, itemOf, Item.text, zero]

theorem items_eq (d : Span) :
    d.items = ((itemsOf d).filter (·.count ≠ 0)).map Item.text := by
  simp only [items, itemsOf, map_text_filter_cons, List.filter_nil, List.map_nil, List.append_nil,
    List.append_assoc]

theorem nanos_itemOf (n : ℕ) (u : TimeUnit) (one many : String) :
    (itemOf n u one many).nanos = n * u.nanos := by
  rw [Item.nanos, itemOf]

/-- Each unit of whole seconds takes its multiples out of what the greater ones have left. -/
theorem seconds_eq_sum (s : ℕ) :
    s = s / 31557600 * 31557600 + s % 31557600 / 2630016 * 2630016 +
      s % 31557600 % 2630016 / 86400 * 86400 +
      s % 31557600 % 2630016 % 86400 / 3600 * 3600 +
      s % 31557600 % 2630016 % 86400 % 3600 / 60 * 60 +
      s % 31557600 % 2630016 % 86400 % 60 := by
  have years := Nat.div_add_mod s 31557600
  have months := Nat.div_add_mod (s % 31557600) 2630016
  have days := Nat.div_add_mod (s % 31557600 % 2630016) 86400
  have hours := Nat.div_add_mod (s % 31557600 % 2630016 % 86400) 3600
  have minutes := Nat.div_add_mod (s % 31557600 % 2630016 % 86400 % 3600) 60
  rw [Nat.mod_mod_of_dvd _ (by decide : 60 ∣ 3600)] at minutes
  linarith

theorem nanos_eq_sum (n : ℕ) :
    n = n / 1000000 * 1000000 + n / 1000 % 1000 * 1000 + n % 1000 := by
  have micros := Nat.div_add_mod n 1000
  have millis := Nat.div_add_mod (n / 1000) 1000
  have thousands : n / 1000 / 1000 = n / 1000000 := Nat.div_div_eq_div_mul _ _ _
  rw [thousands] at millis
  linarith

/-- Together the items are the span. -/
theorem sum_itemsOf (d : Span) : ((itemsOf d).map Item.nanos).sum = d.toNanos := by
  have expand (f : Item → ℕ) {a b c d e g h i j : Item} :
      ([a, b, c, d, e, g, h, i, j].map f).sum =
        f a + f b + f c + f d + f e + f g + f h + f i + f j := by
    simp only [List.map_cons, List.map_nil, List.sum_cons, List.sum_nil]
    omega
  have year : TimeUnit.year.nanos = 31557600 * nanosPerSecond := rfl
  have month : TimeUnit.month.nanos = 2630016 * nanosPerSecond := rfl
  have day : TimeUnit.day.nanos = 86400 * nanosPerSecond := rfl
  have hour : TimeUnit.hour.nanos = 3600 * nanosPerSecond := rfl
  have minute : TimeUnit.minute.nanos = 60 * nanosPerSecond := rfl
  have second : TimeUnit.second.nanos = nanosPerSecond := rfl
  have millisecond : TimeUnit.millisecond.nanos = 1000000 := rfl
  have microsecond : TimeUnit.microsecond.nanos = 1000 := rfl
  have nanosecond : TimeUnit.nanosecond.nanos = 1 := rfl
  unfold itemsOf
  dsimp only
  rw [expand]
  simp only [nanos_itemOf, year, month, day, hour, minute, second, millisecond, microsecond,
    nanosecond]
  rw [toNanos]
  -- Seconds are counted in nanoseconds only now, so that no product is evaluated.
  generalize nanosPerSecond = unit
  conv_rhs => rw [seconds_eq_sum d.seconds.toNat, nanos_eq_sum d.nanos]
  ring

/-- Leaving out items of nothing leaves the sum. -/
theorem sum_filter (is : List Item) :
    ((is.filter (·.count ≠ 0)).map Item.nanos).sum = (is.map Item.nanos).sum := by
  induction is with
  | nil => rfl
  | cons i is ih =>
    by_cases zero : i.count = 0
    · simp [zero, Item.nanos, ← ih]
    · simp [zero, ← ih]

/-- The name is one that the unit has, and the reader takes it as a whole. -/
def isNameOf (u : TimeUnit) (name : List Char) : Bool :=
  TimeUnit.ofName? name == some u && !name.isEmpty &&
    name.all fun c => isUnitChar c && !c.isDigit && !isBlank c

theorem readable_of_isNameOf {i : Item} (count_lt : i.count < 2 ^ 64)
    (few : i.unit.wholeInNanos = true → i.nanos < 2 ^ 63)
    (named : isNameOf i.unit i.name = true) : i.Readable := by
  simp only [isNameOf, Bool.and_eq_true, beq_iff_eq, Bool.not_eq_true', List.isEmpty_eq_false_iff,
    List.all_eq_true] at named
  obtain ⟨⟨known, ne_nil⟩, chars⟩ := named
  exact ⟨count_lt, few, known, ne_nil, fun c mem =>
    ⟨(chars c mem).1.1, (chars c mem).1.2, (chars c mem).2⟩⟩

/-- An item of a unit is readable under both of its names. -/
theorem readable_itemOf {one many : String} (count_lt : n < 2 ^ 64)
    (few : u.wholeInNanos = true → n * u.nanos < 2 ^ 63)
    (names : (isNameOf u one.toList && isNameOf u many.toList) = true) :
    (itemOf n u one many).Readable := by
  obtain ⟨single, plural⟩ := (Bool.and_eq_true _ _).mp names
  apply readable_of_isNameOf count_lt few
  unfold itemOf
  dsimp only
  split_ifs
  · exact single
  · exact plural

theorem readable_itemsOf (d : Span) : ∀ i ∈ itemsOf d, i.Readable := by
  have seconds := d.seconds.toNat_lt
  have nanos := d.nanos_lt
  simp only [nanosPerSecond] at nanos
  have milli : d.nanos / 1000000 * 1000000 < 2 ^ 63 :=
    (Nat.div_mul_le_self _ _).trans_lt (nanos.trans (by decide))
  have micro : d.nanos / 1000 % 1000 * 1000 < 2 ^ 63 :=
    (Nat.mul_lt_mul_of_pos_right (Nat.mod_lt _ (by decide)) (by decide)).trans
      (by decide : 1000 * 1000 < 2 ^ 63)
  have nano : d.nanos % 1000 * 1 < 2 ^ 63 :=
    (Nat.mul_lt_mul_of_pos_right (Nat.mod_lt _ (by decide)) Nat.one_pos).trans
      (by decide : 1000 * 1 < 2 ^ 63)
  -- Only units below a second are counted in nanoseconds, so only they need a bound.
  have coarse {u : TimeUnit} (whole : u.wholeInNanos = false) {p : Prop} :
      u.wholeInNanos = true → p := fun fine => absurd (whole.symm.trans fine) (by decide)
  simp only [itemsOf, List.forall_mem_cons]
  refine ⟨readable_itemOf ?_ (coarse rfl) rfl, readable_itemOf ?_ (coarse rfl) rfl,
    readable_itemOf ?_ (coarse rfl) rfl, readable_itemOf ?_ (coarse rfl) rfl,
    readable_itemOf ?_ (coarse rfl) rfl, readable_itemOf ?_ (coarse rfl) rfl,
    readable_itemOf ?_ (fun _ => milli) rfl, readable_itemOf ?_ (fun _ => micro) rfl,
    readable_itemOf ?_ (fun _ => nano) rfl, by simp⟩
  all_goals omega

/-- Every span is read back from its text. -/
theorem read_write (d : Span) : read d.write = .ok d := by
  by_cases none : d = zero
  · rw [none]
    decide +kernel
  · have sum := (sum_filter (itemsOf d)).trans (sum_itemsOf d)
    have text : d.write = [' '].intercalate (((itemsOf d).filter (·.count ≠ 0)).map Item.text) := by
      rw [write, if_neg none, items_eq]
    have ne_nil : (itemsOf d).filter (·.count ≠ 0) ≠ [] := by
      intro empty
      rw [empty] at sum
      exact none (toNanos_eq_zero_iff.1 sum.symm)
    have readable : ∀ i ∈ (itemsOf d).filter (·.count ≠ 0), i.Readable := fun i mem =>
      readable_itemsOf d i (List.mem_of_mem_filter mem)
    have total : zero.toNanos + (((itemsOf d).filter (·.count ≠ 0)).map Item.nanos).sum =
        d.toNanos := by rw [sum, toNanos_zero, zero_add]
    obtain ⟨t, result, nanos⟩ := @readFrom_items zero 0 0 true _ readable ne_nil
      (total.trans_lt (toNanos_lt d))
    rw [total] at nanos
    rw [← text, toNanos_injective nanos] at result
    -- The text is not the lone zero, which would be refused here.
    have lone : d.write ≠ ['0'] := by
      intro same
      rw [same] at result
      cases result
    rw [read, if_neg lone, result]

end Floodgate.Span
