import Floodgate.Proofs.Outcome
import Floodgate.Proofs.Time.SpanText

/-!
# When a text of a span stops the program

The items of a text are added part by part: the whole number of an item and its fraction are added
apart, each in seconds or in nanoseconds. What the parts are, and which fault is met behind them,
is a matter of the text alone. Only the adding can stop the program, and it does so for a single
sum: `2 ^ 64` seconds exactly, reached by a part of at most a second that is counted in
nanoseconds. Any other sum that is too great is refused.

## Main definitions

* `Span.Part`, `Span.add` — what is added at a time
* `Span.Tally`, `Span.tally` — the parts of a text and the fault behind them
* `Span.CarriesOver` — the parts of a text add up to the sum that stops the program

## Main results

* `Span.plus_eq_carryOverflow_iff` — the one addition that stops the program
* `Span.read_eq_total` — a text is read by adding its parts
* `Span.read_eq_carryOverflow_iff` — the texts that stop the program
-/

namespace Floodgate.Span

variable {t t' : Span} {u : TimeUnit} {n s : ℕ} {name : List Char} {f : Option Fraction}

/-! ### One addition -/

theorem fit_eq_ok_iff {m : ℕ} : fit n = .ok m ↔ n < 2 ^ 64 ∧ n = m := by
  unfold fit
  split_ifs with small <;> simp [small]

theorem fit_ne_carryOverflow : fit n ≠ .error .carryOverflow := by
  unfold fit
  split_ifs <;> simp

theorem carry?_eq_none_iff : carry? s n = none ↔ 2 ^ 64 ≤ s + n / nanosPerSecond := by
  unfold carry?
  split_ifs with fits
  · simpa using fits
  · simpa using fits

/-- Nothing is carried once the seconds are known to fit and the nanoseconds to be less than a
second. -/
theorem carry?_ne_none (fits : s < 2 ^ 64) (less : n < nanosPerSecond) : carry? s n ≠ none := by
  rw [Ne, carry?_eq_none_iff, Nat.div_eq_of_lt less]
  omega

/-- The nanoseconds make up a second that the seconds have no room for. As long as they are more
than a second they move over before the seconds are added, which is refused then. -/
theorem plus_eq_carryOverflow_iff :
    t.plus s n = .error .carryOverflow ↔
      t.nanos + n = nanosPerSecond ∧ t.seconds.toNat + s + 1 = 2 ^ 64 := by
  have second_pos : 0 < nanosPerSecond := by decide
  have second_small : nanosPerSecond < 2 ^ 64 := by decide
  simp only [plus, bind_eq_error_iff, fit_ne_carryOverflow, false_or, fit_eq_ok_iff]
  constructor
  · rintro ⟨_, ⟨-, rfl⟩, _, ⟨fits, rfl⟩, sum⟩
    split at sum
    · cases sum
    next carried =>
    split_ifs at fits carried with full
    · -- What moved over has been counted among the seconds, and less than a second is left.
      exact absurd carried (carry?_ne_none fits (Nat.mod_lt _ second_pos))
    · have same : t.nanos + n = nanosPerSecond := by
        by_contra other
        exact carry?_ne_none fits (by omega) carried
      rw [carry?_eq_none_iff, same, Nat.div_self second_pos] at carried
      omega
  · rintro ⟨same, greatest⟩
    have stays : ¬nanosPerSecond < t.nanos + n := by omega
    have carried : carry? (t.seconds.toNat + s) (t.nanos + n) = none := by
      rw [carry?_eq_none_iff, same, Nat.div_self second_pos, greatest]
    refine ⟨_, ⟨by omega, rfl⟩, ?_⟩
    simp only [if_neg stays]
    refine ⟨_, ⟨by omega, rfl⟩, ?_⟩
    rw [carried]

/-- A sum is the sum. -/
theorem toNanos_of_plus (sum : t.plus s n = .ok t') :
    t'.toNanos = t.toNanos + (s * nanosPerSecond + n) := by
  simp only [plus, bind_eq_ok_iff, fit_eq_ok_iff] at sum
  obtain ⟨_, ⟨-, rfl⟩, _, ⟨-, rfl⟩, sum⟩ := sum
  split at sum
  · next carried =>
    obtain rfl := Except.ok.inj sum
    rw [toNanos_of_carry? carried, toNanos]
    split_ifs with full
    · have parts := Nat.div_add_mod (t.nanos + n) nanosPerSecond
      rw [mul_comm] at parts
      linarith
    · ring
  · cases sum

/-! ### Parts -/

/-- A number, whole or a fraction, as it is added. -/
inductive Part where
  | seconds (n : ℕ)
  | nanos (n : ℕ)
  deriving DecidableEq

/-- A part in nanoseconds. -/
def Part.toNanos : Part → ℕ
  | seconds n => n * nanosPerSecond
  | nanos n => n

/-- The span with a part added. -/
def add (t : Span) : Part → Except SpanError Span
  | .seconds n => t.plus n 0
  | .nanos n => t.plus 0 n

variable {p : Part} {ps : List Part}

theorem toNanos_of_add (sum : t.add p = .ok t') : t'.toNanos = t.toNanos + p.toNanos := by
  cases p with
  | seconds n => simpa [Part.toNanos] using toNanos_of_plus sum
  | nanos n => simpa [Part.toNanos] using toNanos_of_plus sum

/-- Seconds never stop the program, and nanoseconds only when they reach the sum exactly. -/
theorem add_eq_carryOverflow_iff :
    t.add p = .error .carryOverflow ↔
      ∃ n, p = .nanos n ∧ n ≤ nanosPerSecond ∧ t.toNanos + n = 2 ^ 64 * nanosPerSecond := by
  have less := t.nanos_lt
  have fits := t.seconds.toNat_lt
  cases p with
  | seconds n =>
    rw [add, plus_eq_carryOverflow_iff]
    simp only [reduceCtorEq, false_and, exists_false, iff_false]
    omega
  | nanos n =>
    rw [add, plus_eq_carryOverflow_iff]
    simp only [Part.nanos.injEq, exists_eq_left', toNanos, nanosPerSecond] at less ⊢
    omega

theorem toNanos_of_addAll (sum : ps.foldlM add t = .ok t') :
    t'.toNanos = t.toNanos + (ps.map Part.toNanos).sum := by
  induction ps generalizing t with
  | nil =>
    obtain rfl := Except.ok.inj sum
    simp
  | cons p ps ih =>
    rw [List.foldlM_cons, bind_eq_ok_iff] at sum
    obtain ⟨t₁, first, rest⟩ := sum
    rw [ih rest, toNanos_of_add first, List.map_cons, List.sum_cons, add_assoc]

/-- Adding stops the program at one part, those before it added. -/
theorem addAll_eq_error_iff {e : SpanError} :
    ps.foldlM add t = .error e ↔
      ∃ front p back t', ps = front ++ p :: back ∧ front.foldlM add t = .ok t' ∧
        t'.add p = .error e := by
  constructor
  · intro failed
    induction ps generalizing t with
    | nil => cases failed
    | cons p ps ih =>
      rw [List.foldlM_cons, bind_eq_error_iff] at failed
      rcases failed with here | ⟨t₁, first, later⟩
      · exact ⟨[], p, ps, t, rfl, rfl, here⟩
      · obtain ⟨front, q, back, t', rfl, added, stopped⟩ := ih later
        refine ⟨p :: front, q, back, t', rfl, ?_, stopped⟩
        rw [List.foldlM_cons, first]
        exact added
  · rintro ⟨front, p, back, t', rfl, added, stopped⟩
    rw [List.foldlM_append, added]
    change List.foldlM add t' (p :: back) = _
    rw [List.foldlM_cons, stopped]
    rfl

/-! ### Tallies -/

/-- Parts to be added one after the other, and the fault that is met behind them, if any. No such
fault stops the program. -/
structure Tally where
  parts : List Part := []
  fault : Option {e : SpanError // e.isCrash = false} := none

namespace Tally

/-- No part, and a fault. -/
def fail (e : SpanError) (told : e.isCrash = false) : Tally := ⟨[], some ⟨e, told⟩⟩

/-- One part. -/
def single (p : Part) : Tally := { parts := [p] }

/-- A tally behind a number of 64 bits, and nothing but a fault behind a greater one. -/
def fitting (n : ℕ) (a : Tally) : Tally := if n < 2 ^ 64 then a else fail .numberOverflow rfl

/-- The parts of one tally, and behind them those of another one unless there is a fault. -/
def andThen (a b : Tally) : Tally :=
  match a.fault with
  | none => ⟨a.parts ++ b.parts, b.fault⟩
  | some e => ⟨a.parts, some e⟩

/-- The span with the parts added. -/
def total (a : Tally) (t : Span) : Except SpanError Span := do
  let t ← a.parts.foldlM add t
  match a.fault with
  | none => .ok t
  | some e => .error e.1

variable {a b : Tally}

theorem total_single (p : Part) : (single p).total t = t.add p := by
  unfold single total
  dsimp only
  rw [List.foldlM_cons]
  cases t.add p <;> rfl

theorem total_fitting (n : ℕ) (a : Tally) :
    (fitting n a).total t = if n < 2 ^ 64 then a.total t else .error .numberOverflow := by
  unfold fitting
  split_ifs <;> rfl

theorem total_andThen : (a.andThen b).total t = a.total t >>= b.total := by
  obtain ⟨ps, fault⟩ := a
  cases fault with
  | some e =>
    unfold andThen total
    cases ps.foldlM add t <;> rfl
  | none =>
    unfold andThen total
    dsimp only
    rw [List.foldlM_append]
    cases ps.foldlM add t <;> rfl

/-- Only adding stops the program. -/
theorem total_eq_carryOverflow_iff :
    a.total t = .error .carryOverflow ↔ a.parts.foldlM add t = .error .carryOverflow := by
  rw [total, bind_eq_error_iff]
  refine or_iff_left ?_
  rintro ⟨t', -, faulty⟩
  cases fault : a.fault with
  | none => simp [fault] at faulty
  | some e =>
    simp only [fault, Except.error.injEq] at faulty
    have told := e.2
    rw [faulty] at told
    cases told

end Tally

open Tally

/-! ### The parts of a text -/

/-- The whole number of an item as a part. -/
def wholeTally (n : ℕ) (u : TimeUnit) : Tally :=
  if u.wholeInNanos then fitting (n * u.nanos) (single (.nanos (n * u.nanos)))
  else
    let seconds := n * (u.nanos / nanosPerSecond)
    fitting seconds (single (.seconds seconds))

/-- The fraction of an item as a part. -/
def fractionTally (f : Fraction) (u : TimeUnit) : Tally :=
  let scale := if u.fractionInNanos then u.nanos else u.nanos / nanosPerSecond
  let part := f.numerator * scale
  fitting part <|
    if u = .nanosecond ∨ part % f.denominator ≠ 0 then fail .numberOverflow rfl
    else if u.fractionInNanos then single (.nanos (part / f.denominator))
    else single (.seconds (part / f.denominator))

/-- The parts of an item. -/
def itemTally (n : ℕ) (f : Option Fraction) (name : List Char) : Tally :=
  match TimeUnit.ofName? name with
  | none => fail (.unknownUnit name n) rfl
  | some u =>
    match f with
    | none => wholeTally n u
    | some f => (wholeTally n u).andThen (fractionTally f u)

theorem fit_bind {α : Type} (n : ℕ) (f : ℕ → Except SpanError α) :
    (fit n >>= f) = if n < 2 ^ 64 then f n else .error .numberOverflow := by
  unfold fit
  split_ifs <;> rfl

theorem plusWhole_eq (n : ℕ) (u : TimeUnit) : t.plusWhole n u = (wholeTally n u).total t := by
  unfold plusWhole wholeTally
  split_ifs with fine
  · rw [fit_bind, total_fitting, total_single]
    rfl
  · rw [fit_bind, total_fitting, total_single]
    rfl

theorem plusFraction_eq (f : Fraction) (u : TimeUnit) :
    t.plusFraction f u = (fractionTally f u).total t := by
  unfold plusFraction fractionTally
  dsimp only
  rw [fit_bind, total_fitting]
  generalize f.numerator * (if u.fractionInNanos then u.nanos else u.nanos / nanosPerSecond) = part
  split_ifs with fits inexact fine
  · rfl
  · exact (total_single (.nanos _)).symm
  · exact (total_single (.seconds _)).symm
  · rfl

/-- An item is added by adding its parts. -/
theorem plusItem_eq (n : ℕ) (f : Option Fraction) (name : List Char) :
    t.plusItem n f name = (itemTally n f name).total t := by
  unfold plusItem itemTally
  cases TimeUnit.ofName? name with
  | none => rfl
  | some u =>
    cases f with
    | none =>
      dsimp only
      rw [← plusWhole_eq]
      cases t.plusWhole n u <;> rfl
    | some f =>
      dsimp only
      rw [total_andThen, plusWhole_eq]
      simp only [plusFraction_eq]

/-- The parts of a text from `offset` on, in the phase of the reader. -/
def tallyFrom (cs : List Char) (offset : ℕ) (phase : Phase) : Tally :=
  match cs with
  | [] => match phase with
    | .start _ first => if first then fail .empty rfl else {}
    | .whole n => itemTally n none []
    | .fraction n f base =>
      if f.denominator = 1 then fail (.invalidCharacter base) rfl else itemTally n (some f) []
    | .name n f reversed => itemTally n f reversed.reverse
  | c :: rest =>
    let next := offset + c.utf8Size
    match phase with
    | .start base first =>
      if c.isDigit then tallyFrom rest next (.whole (Decimal.digitValue c))
      else if isBlank c then tallyFrom rest next (.start base first)
      else fail (.numberExpected base) rfl
    | .whole n =>
      if c.isDigit then
        let n := 10 * n + Decimal.digitValue c
        fitting n (tallyFrom rest next (.whole n))
      else if isBlank c then tallyFrom rest next (.whole n)
      else if isUnitChar c then tallyFrom rest next (.name n none [c])
      else if c = '.' then tallyFrom rest next (.fraction n ⟨0, 1⟩ offset)
      else fail (.invalidCharacter offset) rfl
    | .fraction n f base =>
      if c.isDigit then
        let f := ⟨10 * f.numerator + Decimal.digitValue c, 10 * f.denominator⟩
        fitting f.denominator (tallyFrom rest next (.fraction n f next))
      else if isBlank c then tallyFrom rest next (.fraction n f next)
      else if isUnitChar c then
        if f.denominator = 1 then fail (.invalidCharacter base) rfl
        else tallyFrom rest next (.name n (some f) [c])
      else fail (.invalidCharacter base) rfl
    | .name n f reversed =>
      if c.isDigit then
        (itemTally n f reversed.reverse).andThen
          (tallyFrom rest next (.whole (Decimal.digitValue c)))
      else if isBlank c then
        (itemTally n f reversed.reverse).andThen (tallyFrom rest next (.start next false))
      else if isUnitChar c then tallyFrom rest next (.name n f (c :: reversed))
      else fail (.invalidCharacter offset) rfl

/-- The parts of a text. -/
def tally (cs : List Char) : Tally := if cs = ['0'] then {} else tallyFrom cs 0 (.start 0 true)

example : (tally "1.5h 90000ms".toList).parts =
    [.seconds 3600, .seconds 1800, .nanos 90000000000] := by
  decide +kernel

theorem readFrom_eq_total (cs : List Char) (offset : ℕ) (phase : Phase) (t : Span) :
    readFrom cs offset phase t = (tallyFrom cs offset phase).total t := by
  -- The tally goes through the phases of the reader, only without the span that is summed up.
  induction cs generalizing offset phase t with
  | nil =>
    cases phase with
    | start base first => cases first <;> rfl
    | whole n => exact plusItem_eq n none []
    | fraction n f base =>
      rw [readFrom, tallyFrom]
      split_ifs
      · rfl
      · exact plusItem_eq n _ []
    | name n f reversed => exact plusItem_eq n f _
  | cons c cs ih =>
    cases phase with
    | start base first =>
      rw [readFrom, tallyFrom]
      split_ifs
      · exact ih ..
      · exact ih ..
      · rfl
    | whole n =>
      rw [readFrom, tallyFrom, fit_bind]
      split_ifs with digit fits
      · rw [total_fitting, if_pos fits]
        exact ih ..
      · rw [total_fitting, if_neg fits]
      · exact ih ..
      · exact ih ..
      · exact ih ..
      · rfl
    | fraction n f base =>
      rw [readFrom, tallyFrom, fit_bind]
      split_ifs with digit fits
      · rw [total_fitting, if_pos fits]
        exact ih ..
      · rw [total_fitting, if_neg fits]
      · exact ih ..
      · rfl
      · exact ih ..
      · rfl
    | name n f reversed =>
      rw [readFrom, tallyFrom, plusItem_eq]
      split_ifs
      · rw [total_andThen]
        exact bind_congr fun t => ih ..
      · rw [total_andThen]
        exact bind_congr fun t => ih ..
      · exact ih ..
      · rfl

/-- A text is read by adding its parts, and its fault is told if they can be added. -/
theorem read_eq_total (cs : List Char) : read cs = (tally cs).total zero := by
  unfold read tally
  split_ifs
  · rfl
  · exact readFrom_eq_total cs 0 _ _

/-- The parts of the text add up to `2 ^ 64` seconds exactly, at one that is counted in nanoseconds
and is no more than a second. -/
def CarriesOver (cs : List Char) : Prop :=
  ∃ front n back t, (tally cs).parts = front ++ .nanos n :: back ∧
    front.foldlM add zero = .ok t ∧ n ≤ nanosPerSecond ∧
    (front.map Part.toNanos).sum + n = 2 ^ 64 * nanosPerSecond

theorem read_eq_carryOverflow_iff {cs : List Char} :
    read cs = .error .carryOverflow ↔ CarriesOver cs := by
  rw [read_eq_total, total_eq_carryOverflow_iff, addAll_eq_error_iff]
  -- The sum before the last part is the sum of the parts before it.
  have sum_eq {front : List Part} {t : Span} (added : front.foldlM add zero = .ok t) :
      t.toNanos = (front.map Part.toNanos).sum := by
    rw [toNanos_of_addAll added, toNanos_zero, zero_add]
  constructor
  · rintro ⟨front, p, back, t, split, added, stopped⟩
    obtain ⟨n, rfl, small, total⟩ := add_eq_carryOverflow_iff.1 stopped
    exact ⟨front, n, back, t, split, added, small, sum_eq added ▸ total⟩
  · rintro ⟨front, n, back, t, split, added, small, total⟩
    exact ⟨front, .nanos n, back, t, split, added,
      add_eq_carryOverflow_iff.2 ⟨n, rfl, small, (sum_eq added).symm ▸ total⟩⟩

end Floodgate.Span
