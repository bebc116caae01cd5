import Floodgate.Power
import Floodgate.Text.Decimal
import Floodgate.Text.Hexadecimal
import Mathlib.Algebra.Order.Ring.Nat
import Mathlib.Data.List.Basic
import Mathlib.Data.List.Induction

/-!
# Numbers and the digits that spell them

A run of digits is the digits of the number it spells behind some zeros. This holds in base ten,
and in base sixteen once the run is put in lower case.

## Main definitions

* `Positional` — digits that write numbers in some base

## Main results

* `Positional.length_digits_le` — how many digits a number has
* `Decimal.exists_zeros`, `Hexadecimal.value?_eq_some_iff` — the runs that spell a number
* `Decimal.digits_value` — a run without a zero in front is the digits of its number
* `Hexadecimal.value?_lt` — what few digits cannot reach
-/

namespace Floodgate

/-- What can be checked of all the ASCII characters holds of each. -/
theorem of_ascii {p : Char → Prop} (all : ∀ n < 128, p (Char.ofNat n)) {c : Char}
    (c_lt : c.toNat < 128) : p c := by
  simpa using all c.toNat c_lt

/-! ### Digits in any base -/

/-- Numbers below the base have one digit, and others the digits of the quotient and one more. -/
structure Positional (base : ℕ) (char : ℕ → Char) (digits : ℕ → List Char) : Prop where
  digits_of_lt : ∀ n < base, digits n = [char n]
  digits_of_le : ∀ n, base ≤ n → digits n = digits (n / base) ++ [char (n % base)]

namespace Positional

variable {base : ℕ} {char : ℕ → Char} {digits : ℕ → List Char}

theorem length_digits_le (writes : Positional base char digits) {n k : ℕ} (k_pos : 0 < k)
    (n_lt : n < base ^ k) : (digits n).length ≤ k := by
  induction k, k_pos using Nat.le_induction generalizing n with
  | base => rw [writes.digits_of_lt n (by simpa using n_lt)]; rfl
  | succ k k_pos ih =>
    rcases Nat.lt_or_ge n base with small | large
    · rw [writes.digits_of_lt n small, List.length_singleton]; omega
    · have := ih (Nat.div_lt_of_lt_mul (by rwa [pow_succ'] at n_lt))
      rw [writes.digits_of_le n large, List.length_append, List.length_singleton]
      omega

/-- One more digit behind a number that has zeros in front. -/
theorem exists_zeros_append (writes : Positional base char digits) {ds : List Char}
    {zeros m k : ℕ} (ds_eq : ds = List.replicate zeros (char 0) ++ digits m) (k_lt : k < base) :
    ∃ zeros', ds ++ [char k] = List.replicate zeros' (char 0) ++ digits (base * m + k) := by
  rw [ds_eq]
  rcases Nat.eq_zero_or_pos m with rfl | pos
  · -- Only zeros so far: the zero that stood for the number joins those in front.
    refine ⟨zeros + 1, ?_⟩
    rw [Nat.mul_zero, Nat.zero_add, writes.digits_of_lt 0 (by omega), writes.digits_of_lt k k_lt,
      List.replicate_succ']
  · have large : base ≤ base * m + k := le_trans (Nat.le_mul_of_pos_right base pos) (by omega)
    have quotient : (base * m + k) / base = m := by
      rw [Nat.mul_add_div (by omega), Nat.div_eq_of_lt k_lt, Nat.add_zero]
    have last : (base * m + k) % base = k := by
      rw [Nat.mul_add_mod, Nat.mod_eq_of_lt k_lt]
    refine ⟨zeros, ?_⟩
    rw [writes.digits_of_le _ large, quotient, last, List.append_assoc]

end Positional

/-! ### Base ten -/

namespace Decimal

theorem positional : Positional 10 digitChar digits where
  digits_of_lt n n_lt := by rw [digits, if_pos n_lt]
  digits_of_le n le_n := by rw [digits, if_neg (by omega)]

theorem toNat_lt_of_isDigit {c : Char} (digit : c.isDigit = true) : c.toNat < 128 := by
  simp only [Char.isDigit, Bool.and_eq_true, decide_eq_true_eq, UInt32.le_iff_toNat_le] at digit
  have nine : '9'.val.toNat = 57 := rfl
  have toNat_eq : c.toNat = c.val.toNat := rfl
  omega

theorem digitValue_lt {c : Char} (digit : c.isDigit = true) : digitValue c < 10 :=
  of_ascii (p := fun c => c.isDigit = true → digitValue c < 10) (by decide)
    (toNat_lt_of_isDigit digit) digit

theorem digitChar_digitValue {c : Char} (digit : c.isDigit = true) :
    digitChar (digitValue c) = c :=
  of_ascii (p := fun c => c.isDigit = true → digitChar (digitValue c) = c) (by decide)
    (toNat_lt_of_isDigit digit) digit

/-- A run of digits is the digits of its number behind zeros. -/
theorem exists_zeros {ds : List Char} (ne_nil : ds ≠ []) (digit : ∀ d ∈ ds, d.isDigit = true) :
    ∃ zeros, ds = List.replicate zeros '0' ++ digits (value ds) := by
  induction ds using List.reverseRecOn with
  | nil => exact absurd rfl ne_nil
  | append_singleton ds d ih =>
    have d_lt := digitValue_lt (digit d (by simp))
    have d_eq := digitChar_digitValue (digit d (by simp))
    rw [value_append_singleton]
    rcases eq_or_ne ds [] with rfl | ds_ne
    · refine ⟨0, ?_⟩
      rw [value, List.foldl_nil, Nat.mul_zero, Nat.zero_add, positional.digits_of_lt _ d_lt, d_eq]
      rfl
    · obtain ⟨zeros, ds_eq⟩ := ih ds_ne fun c mem => digit c (by simp [mem])
      have longer := positional.exists_zeros_append ds_eq d_lt
      rwa [d_eq] at longer

theorem digits_value {ds : List Char} (ne_nil : ds ≠ []) (digit : ∀ d ∈ ds, d.isDigit = true)
    (head : ds.head? = some '0' → ds.length = 1) : digits (value ds) = ds := by
  obtain ⟨zeros, ds_eq⟩ := exists_zeros ne_nil digit
  have pos := List.length_pos_iff.2 (digits_ne_nil (value ds))
  rcases zeros with _ | zeros
  · simpa using ds_eq.symm
  · have length_eq := congrArg List.length ds_eq
    have := head (by rw [ds_eq]; rfl)
    simp only [List.length_append, List.length_replicate] at length_eq
    omega

/-- Only zero has a zero in front. -/
theorem length_digits_of_head {n : ℕ} (head : (digits n).head? = some '0') :
    (digits n).length = 1 := by
  induction n using digits.induct with
  | case1 n n_lt => rw [positional.digits_of_lt n n_lt]; rfl
  | case2 n n_ge ih =>
    rw [positional.digits_of_le n (by omega), List.head?_append_of_ne_nil _ (digits_ne_nil _)]
      at head
    obtain ⟨c, digits_eq⟩ := List.length_eq_one_iff.1 (ih head)
    rw [digits_eq, List.head?_cons, Option.some.injEq] at head
    have zero : n / 10 = 0 := by rw [← value_digits (n / 10), digits_eq, head]; rfl
    omega

end Decimal

/-! ### Base sixteen -/

namespace Hexadecimal

theorem toNat_lt_of_digit? {c : Char} {d : ℕ} (digit : digit? c = some d) : c.toNat < 128 := by
  have nine : '9'.val.toNat = 57 := rfl
  have small : 'f'.val.toNat = 102 := rfl
  have large : 'F'.val.toNat = 70 := rfl
  have toNat_eq : c.toNat = c.val.toNat := rfl
  unfold digit? at digit
  simp only [Char.isDigit, Bool.and_eq_true, decide_eq_true_eq, Char.le_def,
    UInt32.le_iff_toNat_le] at digit
  split_ifs at digit <;> omega

/-- The characters that are digits. -/
theorem mem_of_digit? {c : Char} {d : ℕ} (digit : digit? c = some d) :
    c ∈ "0123456789abcdefABCDEF".toList :=
  of_ascii (p := fun c => ∀ d ∈ digit? c, c ∈ "0123456789abcdefABCDEF".toList) (by decide)
    (toNat_lt_of_digit? digit) d digit

theorem digit?_eq_some {c : Char} {d : ℕ} (digit : digit? c = some d) :
    d < 16 ∧ c.toLower = digitChar d :=
  of_ascii (p := fun c => ∀ d ∈ digit? c, d < 16 ∧ c.toLower = digitChar d) (by decide)
    (toNat_lt_of_digit? digit) d digit

theorem digit?_toLower (c : Char) : digit? c.toLower = digit? c := by
  rcases Nat.lt_or_ge c.toNat 128 with small | large
  · exact of_ascii (p := fun c => digit? c.toLower = digit? c) (by decide) small
  · have not_upper : ¬ (c.val ≥ 'A'.val ∧ c.val ≤ 'Z'.val) := fun upper => by
      have last : 'Z'.val.toNat = 90 := rfl
      have toNat_eq : c.toNat = c.val.toNat := rfl
      have := UInt32.le_iff_toNat_le.1 upper.2
      omega
    have kept : c.toLower = c := dif_neg not_upper
    rw [kept]

theorem value?_append_singleton (ds : List Char) (d : Char) :
    value? (ds ++ [d]) = (value? ds).bind fun n => (digit? d).map (16 * n + ·) := by
  simp [value?, List.foldlM_append]

theorem value?_append_singleton_eq_some {ds : List Char} {d : Char} {n : ℕ} :
    value? (ds ++ [d]) = some n ↔
      ∃ m k, value? ds = some m ∧ digit? d = some k ∧ 16 * m + k = n := by
  simp [value?_append_singleton, Option.bind_eq_some_iff]

theorem value?_map_toLower (ds : List Char) : value? (ds.map Char.toLower) = value? ds := by
  induction ds using List.reverseRecOn with
  | nil => rfl
  | append_singleton ds d ih =>
    rw [List.map_append, List.map_singleton, value?_append_singleton, value?_append_singleton, ih,
      digit?_toLower]

theorem positional : Positional 16 digitChar digits where
  digits_of_lt n n_lt := by rw [digits, if_pos n_lt]
  digits_of_le n le_n := by rw [digits, if_neg (by omega)]

theorem value?_digits (n : ℕ) : value? (digits n) = some n := by
  induction n using digits.induct with
  | case1 n n_lt =>
    rw [positional.digits_of_lt n n_lt]
    simp [value?, digit?_digitChar n_lt]
  | case2 n n_ge ih =>
    rw [positional.digits_of_le n (by omega), value?_append_singleton, ih, Option.bind_some,
      digit?_digitChar (by omega), Option.map_some, Nat.div_add_mod]

theorem value?_replicate_append (zeros : ℕ) (ds : List Char) :
    value? (List.replicate zeros '0' ++ ds) = value? ds := by
  induction zeros with
  | zero => rfl
  | succ zeros ih => rw [List.replicate_succ]; exact ih

/-- A run of digits spells a number if it is the number's digits behind zeros, in either case. -/
theorem value?_eq_some_iff {ds : List Char} (ne_nil : ds ≠ []) {n : ℕ} :
    value? ds = some n ↔
      ∃ zeros, ds.map Char.toLower = List.replicate zeros '0' ++ digits n := by
  constructor
  · intro value_eq
    induction ds using List.reverseRecOn generalizing n with
    | nil => exact absurd rfl ne_nil
    | append_singleton ds d ih =>
      obtain ⟨m, k, value_m, digit_k, rfl⟩ := value?_append_singleton_eq_some.1 value_eq
      obtain ⟨k_lt, d_eq⟩ := digit?_eq_some digit_k
      rw [List.map_append, List.map_singleton, d_eq]
      rcases eq_or_ne ds [] with rfl | ds_ne
      · obtain rfl : 0 = m := by simpa [value?] using value_m
        refine ⟨0, ?_⟩
        rw [Nat.mul_zero, Nat.zero_add, positional.digits_of_lt k k_lt]
        rfl
      · obtain ⟨zeros, ds_eq⟩ := ih ds_ne value_m
        exact positional.exists_zeros_append ds_eq k_lt
  · rintro ⟨zeros, ds_eq⟩
    rw [← value?_map_toLower, ds_eq, value?_replicate_append, value?_digits]

theorem value?_lt {ds : List Char} {n : ℕ} (value_eq : value? ds = some n) :
    n < 16 ^ ds.length := by
  induction ds using List.reverseRecOn generalizing n with
  | nil =>
    obtain rfl : 0 = n := by simpa [value?] using value_eq
    exact Nat.one_pos
  | append_singleton ds d ih =>
    obtain ⟨m, k, value_m, digit_k, rfl⟩ := value?_append_singleton_eq_some.1 value_eq
    have m_lt := ih value_m
    have k_lt := (digit?_eq_some digit_k).1
    rw [List.length_append, List.length_singleton, pow_succ]
    omega

/-- The characters of a run that spells a number. -/
theorem digit?_of_mem {ds : List Char} {n : ℕ} (value_eq : value? ds = some n) :
    ∀ d ∈ ds, (digit? d).isSome = true := by
  induction ds using List.reverseRecOn generalizing n with
  | nil => simp
  | append_singleton ds d ih =>
    obtain ⟨m, k, value_m, digit_k, rfl⟩ := value?_append_singleton_eq_some.1 value_eq
    intro c mem
    rcases List.mem_append.1 mem with mem | mem
    · exact ih value_m c mem
    · rw [List.mem_singleton.1 mem, digit_k]; rfl

end Hexadecimal

end Floodgate
