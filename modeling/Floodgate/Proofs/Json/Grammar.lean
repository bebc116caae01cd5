import Floodgate.Json.Fault
import Floodgate.Json.Value
import Floodgate.Proofs.Text.Digits

/-!
# The grammar of JSON texts

What a well-formed text is, said without a reader. Strings and objects also stand for something: a
string for the characters that it spells, an object for its members in their order, each with the
name that is spelled and the text of its value. A surrogate outside a pair is well-formed but
spells nothing.

## Main definitions

* `Json.IsNumber`, `Json.IsString`, `Json.IsValue` — well-formed texts
* `Json.SpellsText` — a string stands for a text
* `Json.SpellsObject` — an object, blanks around it, stands for a list of members

## Main results

* `Json.spellsText_writeText` — a written text stands for that text
* `Json.spellsObject_render` — a written object stands for its members
-/

namespace Floodgate.Json

/-! ### Numbers -/

/-- One or more digits. -/
def IsDigits (ds : List Char) : Prop := ds ≠ [] ∧ ∀ d ∈ ds, d.isDigit = true

/-- The fraction of a number, if there is one. -/
inductive IsFraction : List Char → Prop
  | none : IsFraction []
  | some {ds : List Char} (digits : IsDigits ds) : IsFraction ('.' :: ds)

/-- The exponent of a number, if there is one. -/
inductive IsExponent : List Char → Prop
  | none : IsExponent []
  | some {mark : Char} {sign ds : List Char} (mark_mem : mark ∈ ['e', 'E'])
      (sign_mem : sign ∈ [[], ['+'], ['-']]) (digits : IsDigits ds) :
      IsExponent (mark :: sign ++ ds)

/-- A number. No zero stands before another digit of the whole part. -/
inductive IsNumber : List Char → Prop
  | mk {sign whole fraction exponent : List Char} (sign_mem : sign ∈ [[], ['-']])
      (digits : IsDigits whole) (padded : whole.head? = some '0' → whole.length = 1)
      (fraction_ok : IsFraction fraction) (exponent_ok : IsExponent exponent) :
      IsNumber (sign ++ whole ++ fraction ++ exponent)

/-! ### Strings -/

/-- The letters of escapes, and the characters that they stand for. -/
def letterEscapes : List (Char × Char) :=
  [('"', '"'), ('\\', '\\'), ('/', '/'), ('b', '\x08'), ('f', '\x0c'), ('n', '\n'), ('r', '\r'),
    ('t', '\t')]

/-- A character that stands for itself. -/
structure IsPlain (c : Char) : Prop where
  quote : c ≠ '"'
  backslash : c ≠ '\\'
  shows : 0x20 ≤ c.toNat

/-- Four digits that spell a number. -/
structure SpellsUnit (ds : List Char) (unit : ℕ) : Prop where
  length_eq : ds.length = 4
  value_eq : Hexadecimal.value? ds = some unit

/-- What may stand between the quotes. -/
inductive IsContent : List Char → Prop
  | nil : IsContent []
  | plain {c : Char} {cs : List Char} (plain : IsPlain c) (rest : IsContent cs) :
      IsContent (c :: cs)
  | letter {l c : Char} {cs : List Char} (mem : (l, c) ∈ letterEscapes) (rest : IsContent cs) :
      IsContent ('\\' :: l :: cs)
  | unit {ds cs : List Char} {unit : ℕ} (spells : SpellsUnit ds unit) (rest : IsContent cs) :
      IsContent ('\\' :: 'u' :: (ds ++ cs))

/-- What stands between the quotes, and the characters that it spells. A character beyond the
first plane may be spelled by two surrogates. -/
inductive SpellsContent : List Char → List Char → Prop
  | nil : SpellsContent [] []
  | plain {c : Char} {cs s : List Char} (plain : IsPlain c) (rest : SpellsContent cs s) :
      SpellsContent (c :: cs) (c :: s)
  | letter {l c : Char} {cs s : List Char} (mem : (l, c) ∈ letterEscapes)
      (rest : SpellsContent cs s) : SpellsContent ('\\' :: l :: cs) (c :: s)
  | unit {c : Char} {ds cs s : List Char} (spells : SpellsUnit ds c.toNat)
      (rest : SpellsContent cs s) : SpellsContent ('\\' :: 'u' :: (ds ++ cs)) (c :: s)
  | pair {c : Char} {ds es cs s : List Char} {leading trailing : ℕ} (spells : SpellsUnit ds leading)
      (spells' : SpellsUnit es trailing) (leads : 0xd800 ≤ leading ∧ leading < 0xdc00)
      (trails : 0xdc00 ≤ trailing ∧ trailing < 0xe000)
      (paired : c.toNat = 0x10000 + (leading - 0xd800) * 0x400 + (trailing - 0xdc00))
      (rest : SpellsContent cs s) :
      SpellsContent ('\\' :: 'u' :: (ds ++ '\\' :: 'u' :: (es ++ cs))) (c :: s)

/-- A string. -/
def IsString (cs : List Char) : Prop := ∃ content, IsContent content ∧ cs = '"' :: content ++ ['"']

/-- A string that stands for a text. -/
def SpellsText (cs : List Char) (s : String) : Prop :=
  ∃ content, SpellsContent content s.toList ∧ cs = '"' :: content ++ ['"']

/-! ### Values -/

/-- What may stand between the parts of a text. -/
def IsBlanks (cs : List Char) : Prop := ∀ c ∈ cs, isBlank c = true

mutual

/-- A value without blanks around it. -/
inductive IsValue : List Char → Prop
  | null : IsValue ['n', 'u', 'l', 'l']
  | true : IsValue ['t', 'r', 'u', 'e']
  | false : IsValue ['f', 'a', 'l', 's', 'e']
  | number {cs : List Char} (number : IsNumber cs) : IsValue cs
  | string {cs : List Char} (string : IsString cs) : IsValue cs
  | emptyArray {bs : List Char} (blanks : IsBlanks bs) : IsValue ('[' :: bs ++ [']'])
  | array {cs : List Char} (items : IsItems cs) : IsValue ('[' :: cs)
  | emptyObject {bs : List Char} (blanks : IsBlanks bs) : IsValue ('\x7b' :: bs ++ ['\x7d'])
  | object {cs : List Char} (members : IsMembers cs) : IsValue ('\x7b' :: cs)

/-- The items of an array from one of them on, and its closing bracket. -/
inductive IsItems : List Char → Prop
  | last {bs v bs' : List Char} (before : IsBlanks bs) (value : IsValue v)
      (behind : IsBlanks bs') : IsItems (bs ++ v ++ bs' ++ [']'])
  | more {bs v bs' cs : List Char} (before : IsBlanks bs) (value : IsValue v)
      (behind : IsBlanks bs') (rest : IsItems cs) : IsItems (bs ++ v ++ bs' ++ ',' :: cs)

/-- The members of an object from one of them on, and its closing brace. -/
inductive IsMembers : List Char → Prop
  | last {m : List Char} (member : IsMember m) : IsMembers (m ++ ['\x7d'])
  | more {m cs : List Char} (member : IsMember m) (rest : IsMembers cs) :
      IsMembers (m ++ ',' :: cs)

/-- One member, blanks around its parts. -/
inductive IsMember : List Char → Prop
  | mk {bs k bs' bs'' v bs''' : List Char} (before : IsBlanks bs) (key : IsString k)
      (between : IsBlanks bs') (between' : IsBlanks bs'') (value : IsValue v)
      (behind : IsBlanks bs''') : IsMember (bs ++ k ++ bs' ++ ':' :: (bs'' ++ v ++ bs'''))

end

/-- One member, blanks around its parts, with the name that is spelled and the text of its
value. -/
inductive SpellsMember : List Char → String × List Char → Prop
  | mk {bs k bs' bs'' v bs''' : List Char} {name : String} (before : IsBlanks bs)
      (key : SpellsText k name) (between : IsBlanks bs') (between' : IsBlanks bs'')
      (value : IsValue v) (behind : IsBlanks bs''') :
      SpellsMember (bs ++ k ++ bs' ++ ':' :: (bs'' ++ v ++ bs''')) (name, v)

/-- The members of an object from one of them on, and its closing brace. -/
inductive SpellsMembers : List Char → List (String × List Char) → Prop
  | last {cs : List Char} {m : String × List Char} (member : SpellsMember cs m) :
      SpellsMembers (cs ++ ['\x7d']) [m]
  | more {cs rest : List Char} {m : String × List Char} {ms : List (String × List Char)}
      (member : SpellsMember cs m) (members : SpellsMembers rest ms) :
      SpellsMembers (cs ++ ',' :: rest) (m :: ms)

/-- An object with blanks around it. -/
inductive SpellsObject : List Char → List (String × List Char) → Prop
  | empty {bs bs' bs'' : List Char} (before : IsBlanks bs) (within : IsBlanks bs')
      (behind : IsBlanks bs'') : SpellsObject (bs ++ '\x7b' :: bs' ++ '\x7d' :: bs'') []
  | members {bs cs bs' : List Char} {ms : List (String × List Char)} (before : IsBlanks bs)
      (members : SpellsMembers cs ms) (behind : IsBlanks bs') :
      SpellsObject (bs ++ '\x7b' :: cs ++ bs') ms

/-! ### Written texts -/

theorem SpellsContent.isContent {cs s : List Char} (spells : SpellsContent cs s) :
    IsContent cs := by
  induction spells with
  | nil => exact .nil
  | plain plain _ ih => exact .plain plain ih
  | letter mem _ ih => exact .letter mem ih
  | unit spells _ ih => exact .unit spells ih
  | pair spells spells' _ _ _ _ ih => exact .unit spells (.unit spells' ih)

theorem SpellsText.isString {cs : List Char} {s : String} (spells : SpellsText cs s) :
    IsString cs := by
  obtain ⟨content, spells, rfl⟩ := spells
  exact ⟨content, spells.isContent, rfl⟩

/-- A written character spells that character. -/
theorem SpellsContent.escape {cs s : List Char} (spells : SpellsContent cs s) (c : Char) :
    SpellsContent (escape c ++ cs) (c :: s) := by
  unfold Json.escape
  split_ifs with quote backslash _ _ _ _ _ control
  iterate 7
    · subst_vars
      exact .letter (by simp [letterEscapes]) spells
  · -- The other controls are below `0x20`, so two zeros stand in front of their digits.
    have high := Hexadecimal.digit?_digitChar (d := c.toNat / 16) (by omega)
    have low := Hexadecimal.digit?_digitChar (d := c.toNat % 16) (by omega)
    have zero : Hexadecimal.digit? '0' = some 0 := by decide
    refine .unit ⟨rfl, ?_⟩ spells
    simp [Hexadecimal.value?, high, low, zero, Nat.div_add_mod]
  · exact .plain ⟨quote, backslash, by omega⟩ spells

theorem spellsText_writeText (s : String) : SpellsText (writeText s) s := by
  refine ⟨s.toList.flatMap escape, ?_, rfl⟩
  induction s.toList with
  | nil => exact .nil
  | cons c cs ih => exact ih.escape c

theorem isDigits_digits (n : ℕ) : IsDigits (Decimal.digits n) := by
  refine ⟨Decimal.digits_ne_nil n, ?_⟩
  intro d mem
  exact Decimal.isDigit_of_mem_digits mem

theorem isNumber_digits (n : ℕ) : IsNumber (Decimal.digits n) := by
  have unpadded := Decimal.length_digits_of_head (n := n)
  have number := IsNumber.mk List.mem_cons_self (isDigits_digits n) unpadded .none .none
  simpa using number

theorem isValue_text (s : String) : IsValue (Json.text s).write := by
  rw [write]
  exact .string (spellsText_writeText s).isString

theorem isValue_natural (n : ℕ) : IsValue (Json.natural n).write := by
  rw [write]
  exact .number (isNumber_digits n)

/-- The members of an object as they are written: each name, and the text of its value. -/
def writtenMembers (ms : List (String × Json)) : List (String × List Char) :=
  ms.map fun m => (m.1, m.2.write)

theorem isBlanks_nil : IsBlanks [] := by simp [IsBlanks]

theorem spellsMember_write {m : String × Json} (value : IsValue m.2.write) :
    SpellsMember (writeText m.1 ++ ':' :: m.2.write) (m.1, m.2.write) := by
  have member := SpellsMember.mk isBlanks_nil (spellsText_writeText m.1) isBlanks_nil isBlanks_nil
    value isBlanks_nil
  simpa using member

theorem spellsMembers_write {ms : List (String × Json)} (ne_nil : ms ≠ [])
    (values : ∀ m ∈ ms, IsValue m.2.write) :
    SpellsMembers (writeMembers ms) (writtenMembers ms) := by
  induction ms with
  | nil => exact absurd rfl ne_nil
  | cons m ms ih =>
    have member := spellsMember_write (values m List.mem_cons_self)
    cases ms with
    | nil =>
      rw [writeMembers]
      exact .last member
    | cons m' ms =>
      have rest := ih (by simp) fun m' mem => values m' (List.mem_cons_of_mem m mem)
      have more := SpellsMembers.more member rest
      rw [writeMembers]
      · simpa [writtenMembers] using more
      · simp

/-- A written object stands for its members. -/
theorem spellsObject_render {ms : List (String × Json)} (values : ∀ m ∈ ms, IsValue m.2.write) :
    SpellsObject (Json.object ms).render.toList (writtenMembers ms) := by
  rw [render, String.toList_ofList, write]
  cases ms with
  | nil =>
    rw [writeMembers]
    exact .empty isBlanks_nil isBlanks_nil isBlanks_nil
  | cons m ms =>
    have members := spellsMembers_write (List.cons_ne_nil m ms) values
    have object := SpellsObject.members isBlanks_nil members isBlanks_nil
    simpa using object

end Floodgate.Json
