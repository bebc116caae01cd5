import Floodgate.Proofs.Json.Skipping
import Floodgate.Proofs.Outcome

/-!
# Values that are read and judged

What a single value is read as depends on its own text alone: nothing is read beyond it, and what
stands behind it does not matter. So a value is accepted behind any blanks and before any end
exactly when it is accepted by itself.

## Main definitions

* `Json.Definite` — a reader that takes a well-formed value as a whole or not at all
* `Json.Judges` — a reader that reads a single value and judges it

## Main results

* `Json.spellsContent_of_readContent` — what is read as a string spells its text
* `Json.reads_of_readFound` — a single value that is found anywhere is read everywhere
* `Json.Judges.definite` — readers that judge are definite
* `Json.Definite.reads_iff` — a value is read everywhere if it is read by itself
-/

namespace Floodgate.Json

variable {bs cs rest v s : List Char} {c : Char}

/-! ### What is read as a string -/

/-- Digits are one byte each. -/
theorem foldl_utf8Size_of_value {ds : List Char} {n : ℕ} (value : Hexadecimal.value? ds = some n) :
    ds.foldl (fun n c => n + c.utf8Size) 0 = ds.length := by
  have size : ∀ d ∈ ds, d.utf8Size = 1 := by
    intro d mem
    obtain ⟨k, digit⟩ := Option.isSome_iff_exists.1 (Hexadecimal.digit?_of_mem value d mem)
    have small := Hexadecimal.toNat_lt_of_digit? digit
    rw [Char.utf8Size_eq_one_iff, UInt32.le_iff_toNat_le]
    exact Nat.le_of_lt_succ small
  clear value
  induction ds using List.reverseRecOn with
  | nil => rfl
  | append_singleton ds d ih =>
    rw [List.foldl_append, ih fun c mem => size c (by simp [mem])]
    simp [size d]

theorem spellsUnit_of_readUnit {unit : ℕ} (read : readUnit cs = .ok (unit, rest)) :
    ∃ ds, SpellsUnit ds unit ∧ cs = ds ++ rest := by
  unfold readUnit at read
  split_ifs at read with short
  cases value : Hexadecimal.value? (cs.take 4) with
  | none => simp [value] at read
  | some n =>
    obtain ⟨rfl, rfl⟩ : n = unit ∧ cs.drop 4 = rest := by simpa [value] using read
    refine ⟨cs.take 4, ⟨?_, value⟩, (List.take_append_drop 4 cs).symm⟩
    -- Fewer than four digits would be fewer than four bytes.
    by_contra few
    have few : cs.length < 4 := by
      rw [List.length_take] at few
      omega
    rw [List.take_of_length_le (by omega)] at value
    rw [foldl_utf8Size_of_value value] at short
    exact short few

theorem mem_of_simpleEscape {l : Char} (letter : simpleEscape l = some c) :
    (l, c) ∈ letterEscapes := by
  unfold simpleEscape at letter
  split at letter <;> simp_all [letterEscapes, eq_comm]

theorem toNat_ofNat {n : ℕ} (valid : n.isValidChar) : (Char.ofNat n).toNat = n := by
  rw [Char.ofNat, dif_pos valid]
  rfl

theorem eq_append_of_skipWord {w : List Char} (skipped : skipWord w cs = .ok rest) :
    cs = w ++ rest := by
  induction w generalizing cs with
  | nil => simpa [skipWord] using skipped
  | cons c w ih =>
    cases cs with
    | nil => simp [skipWord] at skipped
    | cons d cs =>
      rw [skipWord] at skipped
      split_ifs at skipped with same
      rw [same, ih skipped, List.cons_append]

theorem isLeading_iff {unit : ℕ} : isLeading unit = true ↔ 0xd800 ≤ unit ∧ unit < 0xdc00 := by
  simp only [isLeading, Bool.and_eq_true, decide_eq_true_eq]
  omega

theorem isTrailing_iff {unit : ℕ} : isTrailing unit = true ↔ 0xdc00 ≤ unit ∧ unit < 0xe000 := by
  simp only [isTrailing, Bool.and_eq_true, decide_eq_true_eq]
  omega

/-- What is read as an escape spells its character. -/
theorem spellsContent_of_readEscape (read : readEscape cs = .ok (c, rest)) :
    ∃ escape, cs = escape ++ rest ∧
      ∀ content s, SpellsContent content s →
        SpellsContent ('\\' :: (escape ++ content)) (c :: s) := by
  cases cs with
  | nil => simp [readEscape] at read
  | cons l cs =>
    by_cases unit : l = 'u'
    · subst unit
      simp only [readEscape, if_true, bind_eq_ok_iff] at read
      obtain ⟨⟨unit, cs⟩, first, read⟩ := read
      obtain ⟨ds, spells, rfl⟩ := spellsUnit_of_readUnit first
      dsimp only at read
      split_ifs at read with trails leads
      · -- A pair
        simp only [bind_eq_ok_iff] at read
        obtain ⟨cs', marked, ⟨trailing, cs''⟩, second, read⟩ := read
        obtain ⟨es, spells', rfl⟩ := spellsUnit_of_readUnit second
        rw [eq_append_of_skipWord marked]
        split_ifs at read with trails'
        obtain ⟨rfl, rfl⟩ : Char.ofNat (paired unit trailing) = c ∧ cs'' = rest := by
          simpa using read
        rw [isLeading_iff] at leads
        rw [isTrailing_iff] at trails'
        have valid : (paired unit trailing).isValidChar := by
          right
          unfold paired
          omega
        refine ⟨'u' :: (ds ++ '\\' :: 'u' :: es), by simp, fun content s rest => ?_⟩
        rw [List.cons_append, List.append_assoc, List.cons_append, List.cons_append]
        exact .pair spells spells' leads trails' (toNat_ofNat valid) rest
      · -- A single unit
        obtain ⟨rfl, rfl⟩ : Char.ofNat unit = c ∧ cs = rest := by simpa using read
        have small := Hexadecimal.value?_lt spells.value_eq
        rw [spells.length_eq] at small
        have valid : unit.isValidChar := by
          rw [isTrailing_iff] at trails
          rw [isLeading_iff] at leads
          unfold Nat.isValidChar
          omega
        refine ⟨'u' :: ds, by simp, fun content s rest => ?_⟩
        exact .unit (by rwa [toNat_ofNat valid]) rest
    · simp only [readEscape, if_neg unit] at read
      cases letter : simpleEscape l with
      | none => simp [letter] at read
      | some c' =>
        obtain ⟨rfl, rfl⟩ : c' = c ∧ cs = rest := by simpa [letter] using read
        exact ⟨[l], rfl, fun content s spells => .letter (mem_of_simpleEscape letter) spells⟩

theorem spellsContent_of_readContent {fuel : ℕ} (read : readContent fuel cs = .ok (s, rest)) :
    ∃ content, SpellsContent content s ∧ cs = content ++ '"' :: rest := by
  -- Each round of the reader gives one character, so that its bound carries the induction.
  induction fuel generalizing cs s with
  | zero => simp [readContent] at read
  | succ fuel ih =>
    cases cs with
    | nil => simp [readContent] at read
    | cons c cs =>
      simp only [readContent] at read
      split_ifs at read with quote backslash control
      · obtain ⟨rfl, rfl⟩ : [] = s ∧ cs = rest := by simpa using read
        exact ⟨[], .nil, by rw [quote]; rfl⟩
      · simp only [bind_eq_ok_iff] at read
        obtain ⟨⟨c', cs'⟩, escaped, ⟨s', rest'⟩, others, read⟩ := read
        obtain ⟨rfl, rfl⟩ : c' :: s' = s ∧ rest' = rest := by simpa using read
        obtain ⟨content, spells, rfl⟩ := ih others
        obtain ⟨escape, rfl, spelled⟩ := spellsContent_of_readEscape escaped
        exact ⟨_, spelled _ _ spells, by simp [backslash]⟩
      · simp only [bind_eq_ok_iff] at read
        obtain ⟨⟨s', rest'⟩, others, read⟩ := read
        obtain ⟨rfl, rfl⟩ : c :: s' = s ∧ rest' = rest := by simpa using read
        obtain ⟨content, spells, rfl⟩ := ih others
        exact ⟨c :: content, .plain ⟨quote, backslash, Nat.not_lt.1 control⟩ spells, rfl⟩

theorem IsString.spellsText_of_readText {t : String} (string : IsString v)
    (read : readText (v.tail ++ cs) = .ok (t, rest)) : rest = cs ∧ SpellsText v t := by
  obtain ⟨content, well, rfl⟩ := string
  simp only [readText, bind_eq_ok_iff, List.cons_append, List.tail_cons] at read
  obtain ⟨⟨s, rest'⟩, found, read⟩ := read
  obtain ⟨rfl, rfl⟩ : String.ofList s = t ∧ rest' = rest := by simpa using read
  obtain ⟨content', spells, eq⟩ := spellsContent_of_readContent found
  rw [List.append_assoc, List.singleton_append] at eq
  -- Both contents are skipped off the same text, so that the same is left behind them.
  have enough : content.length < content.length + content'.length + 1 := by omega
  have enough' : content'.length < content.length + content'.length + 1 := by omega
  have skipped := well.skipContent_append cs enough
  rw [eq, spells.isContent.skipContent_append rest' enough', Except.ok.injEq] at skipped
  rw [skipped] at eq
  refine ⟨skipped, content', by simpa using spells, ?_⟩
  rw [List.append_cancel_right eq]

/-! ### What is found -/

theorem Reads.eq {α : Type} {reader : Reader α} {a a' : α} (reads : Reads reader v a)
    (blanks : IsBlanks bs) (ends : IsEnd cs) (read : reader (bs ++ (v ++ cs)) = .ok (a', rest)) :
    a' = a ∧ rest = cs := by
  rw [reads bs cs blanks ends, Except.ok.injEq, Prod.mk.injEq] at read
  exact ⟨read.1.symm, read.2.symm⟩

theorem SpellsNumeral.reads_readFound {m : Numeral} {n : Number} (spells : SpellsNumeral v m)
    (number : IsNumber v) (value : m.value = some n) : Reads readFound v (.number n) := by
  intro bs cs blanks ends
  have read : readNumber (v ++ cs) = .ok (n, cs) := by
    simp [readNumber, spells.read_append ends, value, Bind.bind, Except.bind]
  obtain ⟨c, tail, rfl, first⟩ := number.exists_cons
  obtain ⟨shows, others⟩ := numberHead_ne first
  simp only [List.mem_cons, not_or] at others
  rw [List.cons_append] at read
  rw [readFound, List.cons_append, skipBlanks_append_cons blanks shows]
  simp [others, first, read, Bind.bind, Except.bind]

/-- A number that is found has a value. -/
theorem SpellsNumeral.exists_value {m : Numeral} {x : Found} (spells : SpellsNumeral v m)
    (number : IsNumber v) (blanks : IsBlanks bs) (ends : IsEnd cs)
    (read : readFound (bs ++ (v ++ cs)) = .ok (x, rest)) : ∃ n, m.value = some n := by
  have parts := spells.read_append ends
  obtain ⟨c, tail, rfl, first⟩ := number.exists_cons
  obtain ⟨shows, others⟩ := numberHead_ne first
  simp only [List.mem_cons, not_or] at others
  rw [List.cons_append] at parts
  rw [readFound, List.cons_append, skipBlanks_append_cons blanks shows] at read
  simp only [others, first, if_true, if_false, bind_eq_ok_iff] at read
  obtain ⟨⟨n, rest'⟩, found, -⟩ := read
  simp only [readNumber, parts, bind_eq_ok_iff] at found
  cases value : m.value with
  | none => simp [value] at found
  | some n => exact ⟨n, rfl⟩

/-- Nothing is read beyond a single value that is found, and what stands around it does not
matter. -/
theorem reads_of_readFound {x : Found} (value : IsValue v) (blanks : IsBlanks bs)
    (ends : IsEnd cs) (read : readFound (bs ++ (v ++ cs)) = .ok (x, rest)) :
    (x = .array ∨ x = .object) ∨ rest = cs ∧ Reads readFound v x := by
  -- It is enough that the value is read as something, as nothing else is found then.
  have of_reads {y : Found} (reads : Reads readFound v y) :
      (x = .array ∨ x = .object) ∨ rest = cs ∧ Reads readFound v x := by
    obtain ⟨rfl, rfl⟩ := reads.eq blanks ends read
    exact .inr ⟨rfl, reads⟩
  have skips {c : Char} (shows : isBlank c = false) {bs cs : List Char} (blanks : IsBlanks bs) :=
    skipBlanks_append_cons blanks shows cs
  cases value with
  | null =>
    refine of_reads (y := .null) fun bs cs blanks ends => ?_
    simp [readFound, skips, blanks, isBlank, skipWord, Bind.bind, Except.bind]
  | «true» =>
    refine of_reads (y := .bool true) fun bs cs blanks ends => ?_
    simp [readFound, skips, blanks, isBlank, skipWord, Bind.bind, Except.bind]
  | «false» =>
    refine of_reads (y := .bool false) fun bs cs blanks ends => ?_
    simp [readFound, skips, blanks, isBlank, skipWord, Bind.bind, Except.bind]
  | number number =>
    obtain ⟨m, spells⟩ := number.exists_spellsNumeral
    obtain ⟨n, value⟩ := spells.exists_value number blanks ends read
    exact of_reads (spells.reads_readFound number value)
  | string string =>
    have opened : ∃ tail, v = '"' :: tail := by
      obtain ⟨content, -, rfl⟩ := string
      exact ⟨_, rfl⟩
    obtain ⟨tail, rfl⟩ := opened
    rw [readFound, List.cons_append, skips (by decide) blanks] at read
    simp only [if_true, bind_eq_ok_iff] at read
    obtain ⟨⟨t, rest'⟩, found, read⟩ := read
    exact of_reads (string.spellsText_of_readText found).2.reads_readFound
  | emptyArray | array =>
    simp [readFound, skips, blanks, isBlank] at read
    exact .inl (.inl read.1.symm)
  | emptyObject | object =>
    simp [readFound, skips, blanks, isBlank] at read
    exact .inl (.inr read.1.symm)

/-! ### Readers that judge -/

/-- The reader takes a well-formed value as a whole or not at all, whatever is around it. -/
def Definite {α : Type} (reader : Reader α) : Prop :=
  ∀ v bs cs a rest, IsValue v → IsBlanks bs → IsEnd cs →
    reader (bs ++ (v ++ cs)) = .ok (a, rest) → rest = cs ∧ Reads reader v a

/-- The reader reads what is found and judges it. Arrays and objects are refused, of which only
the beginning has been read. -/
structure Judges {α : Type} (reader : Reader α) (judge : Found → Except Fault α) : Prop where
  reader_eq : ∀ cs, reader cs = (readFound cs).bind fun p => (judge p.1).map fun a => (a, p.2)
  array : ∀ a, judge .array ≠ .ok a
  object : ∀ a, judge .object ≠ .ok a

variable {α : Type} {reader : Reader α} {judge : Found → Except Fault α} {a : α}

theorem Judges.reader_eq_ok_iff (judges : Judges reader judge) :
    reader cs = .ok (a, rest) ↔ ∃ x, readFound cs = .ok (x, rest) ∧ judge x = .ok a := by
  rw [judges.reader_eq]
  cases found : readFound cs with
  | error e => simp [Except.bind]
  | ok p =>
    obtain ⟨x, rest'⟩ := p
    simp only [Except.bind, map_eq_ok_iff, Prod.mk.injEq, Except.ok.injEq]
    constructor
    · rintro ⟨_, judged, rfl, rfl⟩
      exact ⟨x, ⟨rfl, rfl⟩, judged⟩
    · rintro ⟨_, ⟨rfl, rfl⟩, judged⟩
      exact ⟨a, judged, rfl, rfl⟩

theorem Judges.reads (judges : Judges reader judge) {x : Found} (found : Reads readFound v x)
    (judged : judge x = .ok a) : Reads reader v a :=
  fun bs cs blanks ends => judges.reader_eq_ok_iff.2 ⟨x, found bs cs blanks ends, judged⟩

theorem Judges.definite (judges : Judges reader judge) : Definite reader := by
  intro v bs cs a rest value blanks ends read
  obtain ⟨x, found, judged⟩ := judges.reader_eq_ok_iff.1 read
  rcases reads_of_readFound value blanks ends found with (rfl | rfl) | ⟨rfl, reads⟩
  · exact absurd judged (judges.array a)
  · exact absurd judged (judges.object a)
  · exact ⟨rfl, judges.reads reads judged⟩

theorem Definite.reads_iff (definite : Definite reader) (value : IsValue v) :
    Reads reader v a ↔ reader v = .ok (a, []) := by
  constructor
  · intro reads
    simpa using reads [] [] isBlanks_nil isEnd_nil
  · intro read
    exact (definite v [] [] a [] value isBlanks_nil isEnd_nil (by simpa using read)).2

/-! ### Numbers of wanted types -/

/-- The binary64 number that was found. -/
def Found.binary64 : Found → Except Fault Binary64
  | .number (.natural n) => .ok (.ofNat n)
  | .number (.negative n) => .ok (-.ofNat n)
  | .number (.real x) => .ok x
  | v => .error (v.wrongType "f64")

/-- The number of 32 bits that was found. -/
def Found.uint32 (v : Found) : Except Fault UInt32 :=
  match v with
  | .number (.natural n) =>
    if n < 2 ^ 32 then .ok (UInt32.ofNat n) else .error (v.wrongValue "u32")
  | .number (.negative _) => .error (v.wrongValue "u32")
  | _ => .error (v.wrongType "u32")

theorem judges_readBinary64 : Judges readBinary64 Found.binary64 where
  reader_eq cs := by
    unfold readBinary64
    cases readFound cs with
    | error e => rfl
    | ok p =>
      obtain ⟨v, cs⟩ := p
      match v with
      | .number (.natural _) | .number (.negative _) | .number (.real _) => rfl
      | .null | .bool _ | .text _ | .array | .object => rfl
  array a := by simp [Found.binary64]
  object a := by simp [Found.binary64]

theorem judges_readUInt32 : Judges readUInt32 Found.uint32 where
  reader_eq cs := by
    unfold readUInt32 readBelow
    cases readFound cs with
    | error e => rfl
    | ok p =>
      obtain ⟨v, cs⟩ := p
      match v with
      | .number (.natural n) =>
        by_cases small : n < 2 ^ 32 <;>
          simp [Found.uint32, small, Bind.bind, Except.bind, Except.map]
      | .number (.negative _) | .number (.real _) => rfl
      | .null | .bool _ | .text _ | .array | .object => rfl
  array a := by simp [Found.uint32]
  object a := by simp [Found.uint32]

end Floodgate.Json
