import Floodgate.Json.Scalar
import Floodgate.Proofs.Json.Grammar

/-!
# What well-formed texts are read as

Readers take a well-formed part off the front of a text, blanks before it too, and leave the rest.
A string is read as the text that it stands for, and the digits of a number as that number, as
long as something stands behind them that ends a value.

## Main definitions

* `Json.IsEnd` — the text behind a value
* `Json.Reads` — a reader takes a value, and blanks before it, off the front of every text

## Main results

* `Json.SpellsText.readText_append` — a string is read as the text that it stands for
* `Json.SpellsText.reads_readString`, `Json.SpellsText.reads_readOptionalString`,
  `Json.reads_digits` — values of a wanted type
-/

namespace Floodgate.Json

variable {bs cs ds : List Char} {c : Char}

/-! ### Blanks and marks -/

theorem skipBlanks_append (blanks : IsBlanks bs) (cs : List Char) :
    skipBlanks (bs ++ cs) = skipBlanks cs :=
  List.dropWhile_append_of_pos blanks

theorem skipBlanks_cons (shows : isBlank c = false) (cs : List Char) :
    skipBlanks (c :: cs) = c :: cs :=
  List.dropWhile_cons_of_neg (by simp [shows])

theorem skipBlanks_append_cons (blanks : IsBlanks bs) (shows : isBlank c = false)
    (cs : List Char) : skipBlanks (bs ++ c :: cs) = c :: cs := by
  rw [skipBlanks_append blanks, skipBlanks_cons shows]

theorem skipMark_append_cons (blanks : IsBlanks bs) (shows : isBlank c = false)
    (cs : List Char) : skipMark c (bs ++ c :: cs) = .ok cs := by
  rw [skipMark, skipBlanks_append_cons blanks shows]
  exact if_pos rfl

/-- What may stand behind a value: nothing, a blank, or a mark that ends the value. -/
def IsEnd (cs : List Char) : Prop :=
  ∀ c, cs.head? = some c → isBlank c = true ∨ c ∈ [',', ']', '\x7d']

theorem isEnd_nil : IsEnd [] := by simp [IsEnd]

theorem IsEnd.append_cons (blanks : IsBlanks bs) (mark : c ∈ [',', ']', '\x7d'])
    (cs : List Char) : IsEnd (bs ++ c :: cs) := by
  intro d head
  cases bs with
  | nil =>
    obtain rfl := Option.some.inj head
    exact .inr mark
  | cons b bs =>
    obtain rfl := Option.some.inj head
    exact .inl (blanks b List.mem_cons_self)

/-- The marks behind a member end its value. -/
theorem IsEnd.append_mark (blanks : IsBlanks bs) (mark : c ∈ [',', '\x7d']) (cs : List Char) :
    IsEnd (bs ++ c :: cs) := by
  refine IsEnd.append_cons blanks ?_ cs
  simp only [List.mem_cons, List.not_mem_nil, or_false] at mark ⊢
  tauto

/-- A number does not go on in what ends it. -/
theorem IsEnd.head_ne (ends : IsEnd cs) (head : cs.head? = some c) :
    c.isDigit = false ∧ c ≠ '.' ∧ c ≠ 'e' ∧ c ≠ 'E' := by
  have marks := ends c head
  simp only [isBlank, Bool.or_eq_true, beq_iff_eq, List.mem_cons, List.not_mem_nil, or_false]
    at marks
  rcases marks with (((rfl | rfl) | rfl) | rfl) | rfl | rfl | rfl <;> decide

/-- The reader takes the value `v`, and blanks before it, off the front of every text, and what
it gives for them is `a`. -/
def Reads {α : Type} (reader : Reader α) (v : List Char) (a : α) : Prop :=
  ∀ bs cs, IsBlanks bs → IsEnd cs → reader (bs ++ (v ++ cs)) = .ok (a, cs)

/-! ### Strings -/

theorem SpellsUnit.readUnit_append {unit : ℕ} (spells : SpellsUnit ds unit) (cs : List Char) :
    readUnit (ds ++ cs) = .ok (unit, cs) := by
  have size_ge (cs : List Char) (n : ℕ) :
      n + cs.length ≤ cs.foldl (fun n c => n + c.utf8Size) n := by
    induction cs generalizing n with
    | nil => simp
    | cons c cs ih =>
      have := c.utf8Size_pos
      have := ih (n + c.utf8Size)
      simp only [List.foldl_cons, List.length_cons]
      omega
  have size := size_ge (ds ++ cs) 0
  rw [List.length_append, spells.length_eq] at size
  rw [readUnit, if_neg (by omega), List.take_left' spells.length_eq,
    List.drop_left' spells.length_eq, spells.value_eq]

theorem simpleEscape_of_mem {l : Char} (mem : (l, c) ∈ letterEscapes) :
    l ≠ 'u' ∧ simpleEscape l = some c := by
  simp only [letterEscapes, List.mem_cons, List.not_mem_nil, or_false, Prod.mk.injEq] at mem
  rcases mem with ⟨rfl, rfl⟩ | ⟨rfl, rfl⟩ | ⟨rfl, rfl⟩ | ⟨rfl, rfl⟩ | ⟨rfl, rfl⟩ | ⟨rfl, rfl⟩ |
    ⟨rfl, rfl⟩ | ⟨rfl, rfl⟩ <;> decide

theorem readEscape_letter {l : Char} (mem : (l, c) ∈ letterEscapes) (cs : List Char) :
    readEscape (l :: cs) = .ok (c, cs) := by
  obtain ⟨other, letter⟩ := simpleEscape_of_mem mem
  simp [readEscape, other, letter]

theorem readEscape_unit (spells : SpellsUnit ds c.toNat) (cs : List Char) :
    readEscape ('u' :: (ds ++ cs)) = .ok (c, cs) := by
  -- A character is no surrogate.
  have valid : c.toNat < 0xd800 ∨ 0xdfff < c.toNat := by
    rcases c.valid with low | high
    · exact .inl low
    · exact .inr high.1
  have leads : isLeading c.toNat = false := by
    simp only [isLeading, Bool.and_eq_false_iff, decide_eq_false_iff_not]
    omega
  have trails : isTrailing c.toNat = false := by
    simp only [isTrailing, Bool.and_eq_false_iff, decide_eq_false_iff_not]
    omega
  simp [readEscape, spells.readUnit_append, leads, trails, Bind.bind, Except.bind]

theorem readEscape_pair {es : List Char} {leading trailing : ℕ} (spells : SpellsUnit ds leading)
    (spells' : SpellsUnit es trailing) (leads : 0xd800 ≤ leading ∧ leading < 0xdc00)
    (trails : 0xdc00 ≤ trailing ∧ trailing < 0xe000)
    (paired_eq : c.toNat = 0x10000 + (leading - 0xd800) * 0x400 + (trailing - 0xdc00))
    (cs : List Char) :
    readEscape ('u' :: (ds ++ '\\' :: 'u' :: (es ++ cs))) = .ok (c, cs) := by
  have first : isTrailing leading = false ∧ isLeading leading = true := by
    simp only [isTrailing, isLeading, Bool.and_eq_false_iff, Bool.and_eq_true,
      decide_eq_false_iff_not, decide_eq_true_eq]
    omega
  have second : isTrailing trailing = true := by
    simp only [isTrailing, Bool.and_eq_true, decide_eq_true_eq]
    omega
  have toNat_eq : paired leading trailing = c.toNat := paired_eq.symm
  have char : Char.ofNat (paired leading trailing) = c := by
    rw [toNat_eq, Char.ofNat_toNat]
  simp [readEscape, spells.readUnit_append, spells'.readUnit_append, first, second, char, skipWord,
    Bind.bind, Except.bind]

theorem readContent_escape {fuel : ℕ} {cs' s rest : List Char} (pos : 0 < fuel)
    (escape : readEscape cs = .ok (c, cs')) (content : readContent (fuel - 1) cs' = .ok (s, rest)) :
    readContent fuel ('\\' :: cs) = .ok (c :: s, rest) := by
  obtain ⟨fuel, rfl⟩ := Nat.exists_eq_add_one_of_ne_zero pos.ne'
  rw [Nat.add_sub_cancel] at content
  simp [readContent, escape, content, Bind.bind, Except.bind]

/-- The content of a string is read as the characters that it spells. -/
theorem SpellsContent.readContent_append {content s : List Char}
    (spells : SpellsContent content s) (cs : List Char) {fuel : ℕ}
    (enough : content.length < fuel) :
    readContent fuel (content ++ '"' :: cs) = .ok (s, cs) := by
  -- Each step spells one character, however many it takes for that.
  induction spells generalizing fuel with
  | nil =>
    obtain ⟨fuel, rfl⟩ := Nat.exists_eq_add_one_of_ne_zero (Nat.ne_zero_of_lt enough)
    simp [readContent]
  | plain plain _ ih =>
    obtain ⟨fuel, rfl⟩ := Nat.exists_eq_add_one_of_ne_zero (Nat.ne_zero_of_lt enough)
    have shows := Nat.not_lt.2 plain.shows
    have rest := ih (Nat.lt_of_succ_lt_succ enough)
    simp [readContent, plain.quote, plain.backslash, shows, rest, Bind.bind, Except.bind]
  | letter mem _ ih =>
    simp only [List.length_cons] at enough
    exact readContent_escape (by omega) (readEscape_letter mem _) (ih (by omega))
  | unit spells _ ih =>
    simp only [List.length_cons, List.length_append] at enough
    rw [List.cons_append, List.cons_append, List.append_assoc]
    exact readContent_escape (by omega) (readEscape_unit spells _) (ih (by omega))
  | pair spells spells' leads trails paired _ ih =>
    simp only [List.length_cons, List.length_append] at enough
    simp only [List.cons_append, List.append_assoc]
    exact readContent_escape (by omega) (readEscape_pair spells spells' leads trails paired _)
      (ih (by omega))

/-- A string is read as the text that it stands for, once its opening quote has been read. -/
theorem SpellsText.readText_append {s : String} (spells : SpellsText cs s) :
    ∃ tail, cs = '"' :: tail ∧ ∀ rest, readText (tail ++ rest) = .ok (s, rest) := by
  obtain ⟨content, spells, rfl⟩ := spells
  refine ⟨content ++ ['"'], by simp, ?_⟩
  intro rest
  have enough : content.length < (content ++ '"' :: rest).length := by simp
  rw [List.append_assoc, List.singleton_append, readText, spells.readContent_append rest enough]
  simp [Bind.bind, Except.bind]

theorem SpellsText.reads_readFound {s : String} (spells : SpellsText cs s) :
    Reads readFound cs (.text s) := by
  intro bs rest blanks _
  obtain ⟨tail, rfl, read⟩ := spells.readText_append
  rw [readFound, List.cons_append, skipBlanks_append_cons blanks (by decide)]
  simp [read, Bind.bind, Except.bind]

theorem SpellsText.reads_readString {s : String} (spells : SpellsText cs s) :
    Reads readString cs s := by
  intro bs rest blanks ends
  simp [readString, readStringAs, spells.reads_readFound bs rest blanks ends, Bind.bind,
    Except.bind]

theorem SpellsText.reads_readOptionalString {s : String} (spells : SpellsText cs s) :
    Reads readOptionalString cs (some s) := by
  intro bs rest blanks ends
  simp [readOptionalString, spells.reads_readFound bs rest blanks ends, Bind.bind, Except.bind]

/-- Of an object only the brace is read. -/
theorem readFound_object (blanks : IsBlanks bs) (cs : List Char) :
    readFound (bs ++ '\x7b' :: cs) = .ok (.object, cs) := by
  rw [readFound, skipBlanks_append_cons blanks (by decide)]
  simp

/-- Of an array only the bracket is read. -/
theorem readFound_array (blanks : IsBlanks bs) (cs : List Char) :
    readFound (bs ++ '[' :: cs) = .ok (.array, cs) := by
  rw [readFound, skipBlanks_append_cons blanks (by decide)]
  simp

/-! ### Whole numbers -/

theorem readDigits_append (digits : IsDigits ds)
    (stops : ∀ c, cs.head? = some c → c.isDigit = false) :
    readDigits (ds ++ cs) = .ok (ds, cs) := by
  have leading : Decimal.leading (ds ++ cs) = ds := by
    rw [Decimal.leading, List.takeWhile_append_of_pos digits.2]
    cases cs with
    | nil => simp
    | cons c cs => simp [stops c rfl]
  have behind : Decimal.afterLeading (ds ++ cs) = cs := by
    rw [Decimal.afterLeading, List.dropWhile_append_of_pos digits.2]
    cases cs with
    | nil => simp
    | cons c cs => simp [stops c rfl]
  rw [readDigits, leading, behind]
  cases ds with
  | nil => exact absurd rfl digits.1
  | cons d ds => rfl

theorem read_digits (n : ℕ) (ends : IsEnd cs) :
    Numeral.read (Decimal.digits n ++ cs) = .ok (⟨false, Decimal.digits n, [], none⟩, cs) := by
  have digits := isDigits_digits n
  have read := readDigits_append digits fun c head => (ends.head_ne head).1
  have whole : Numeral.readWhole (Decimal.digits n ++ cs) = .ok (Decimal.digits n, cs) := by
    have padded : ¬((Decimal.digits n).head? = some '0' ∧ Decimal.digits n ≠ ['0']) := by
      rintro ⟨head, long⟩
      obtain ⟨d, eq⟩ := List.length_eq_one_iff.1 (Decimal.length_digits_of_head head)
      rw [eq, List.head?_cons, Option.some.injEq] at head
      rw [eq, head] at long
      exact long rfl
    simp only [Numeral.readWhole, read, Bind.bind, Except.bind, if_neg padded]
  have fraction : Numeral.readFraction cs = .ok ([], cs) := by
    cases cs with
    | nil => rfl
    | cons c cs =>
      have := (ends.head_ne rfl).2.1
      unfold Numeral.readFraction
      split <;> simp_all
  have exponent : Numeral.readExponent cs = .ok (none, cs) := by
    cases cs with
    | nil => rfl
    | cons c cs =>
      obtain ⟨-, -, lower, upper⟩ := ends.head_ne rfl
      simp [Numeral.readExponent, lower, upper]
  rw [Numeral.read]
  · simp [whole, fraction, exponent, Bind.bind, Except.bind]
  · intro rest signed
    have first : (Decimal.digits n ++ cs).head? = some '-' := by rw [signed]; rfl
    rw [List.head?_append_of_ne_nil _ digits.1] at first
    exact absurd (digits.2 '-' (List.mem_of_mem_head? first)) (by decide)

/-- A number with digits appended to it. -/
def extended (n : ℕ) (ds : List Char) : ℕ := ds.foldl (fun n c => 10 * n + Decimal.digitValue c) n

theorem le_extended (n : ℕ) (ds : List Char) : n ≤ extended n ds := by
  induction ds generalizing n with
  | nil => exact Nat.le_refl n
  | cons d ds ih =>
    have appended : n ≤ 10 * n + Decimal.digitValue d := by omega
    exact appended.trans (ih _)

/-- Digits that spell a number of 64 bits are all absorbed. -/
theorem absorb_of_lt {n : ℕ} (small : extended n ds < 2 ^ 64) :
    Numeral.absorb n ds = (extended n ds, 0) := by
  induction ds generalizing n with
  | nil => rfl
  | cons d ds ih =>
    have first : 10 * n + Decimal.digitValue d < 2 ^ 64 := lt_of_le_of_lt (le_extended _ ds) small
    rw [Numeral.absorb, if_pos first]
    exact ih small

/-- No other value begins with a digit. -/
theorem not_isBlank_of_isDigit (digit : c.isDigit = true) :
    isBlank c = false ∧ c ∉ ['"', '[', '\x7b', 'n', 't', 'f'] :=
  of_ascii (p := fun c => c.isDigit = true →
    isBlank c = false ∧ c ∉ ['"', '[', '\x7b', 'n', 't', 'f']) (by decide)
    (Decimal.toNat_lt_of_isDigit digit) digit

/-- Digits are read as the number that they spell, if it has 64 bits. -/
theorem reads_readFound_digits {n : ℕ} (n_lt : n < 2 ^ 64) :
    Reads readFound (Decimal.digits n) (.number (.natural n)) := by
  intro bs cs blanks ends
  have absorbed : Numeral.absorb 0 (Decimal.digits n) = (n, 0) := by
    have value : extended 0 (Decimal.digits n) = n := Decimal.value_digits n
    rw [absorb_of_lt (by rwa [value]), value]
  have value : Numeral.value ⟨false, Decimal.digits n, [], none⟩ = some (.natural n) := by
    simp [Numeral.value, absorbed]
  have number : readNumber (Decimal.digits n ++ cs) = .ok (.natural n, cs) := by
    simp [readNumber, read_digits n ends, value, Bind.bind, Except.bind]
  cases digits : Decimal.digits n with
  | nil => exact absurd digits (Decimal.digits_ne_nil n)
  | cons d ds =>
    have digit : d.isDigit = true := Decimal.isDigit_of_mem_digits (n := n) (by simp [digits])
    obtain ⟨shows, others⟩ := not_isBlank_of_isDigit digit
    simp only [List.mem_cons, not_or] at others
    rw [digits, List.cons_append] at number
    rw [List.cons_append, readFound, skipBlanks_append_cons blanks shows]
    simp [others, digit, number, Bind.bind, Except.bind]

theorem reads_digits (n : UInt16) : Reads readUInt16 (Decimal.digits n.toNat) n := by
  intro bs cs blanks ends
  have small := n.toNat_lt
  have found := reads_readFound_digits (n := n.toNat) (by omega) bs cs blanks ends
  simp [readUInt16, readBelow, found, small, Bind.bind, Except.bind]

end Floodgate.Json
