import Floodgate.Net.Address
import Floodgate.Proofs.Text.Digits
import Floodgate.Proofs.Text.Parts

/-!
# How addresses are spelled

The texts that stand for an address, as a grammar. Four octets have one spelling. Eight groups
have many: digits in either case, zeros in front of a group, the last two groups as four octets,
and two colons for one or more groups of zero. Reading accepts just these texts.

## Main definitions

* `Address.SpellsGroup`, `Address.SpellsGroups`, `Address.SpellsTail` — groups
* `Address.Spells` — a text stands for an address

## Main results

* `Quad.read_eq_some_iff` — the one spelling of four octets
* `Address.read_eq_some_iff` — a text is read as an address if it spells the address
* `Address.Spells.unique` — a text stands for one address at most
* `Address.Spells.mem_spellingChars` — the characters of a spelling
-/

namespace Floodgate

/-! ### Four octets -/

namespace Quad

theorem length_digits_octet (x : UInt8) : (Decimal.digits x.toNat).length ≤ 3 :=
  Decimal.positional.length_digits_le (by omega) (lt_trans x.toNat_lt (by decide))

theorem readOctet_eq_some_iff {ds : List Char} {x : UInt8} :
    readOctet ds = some x ↔ ds = Decimal.digits x.toNat := by
  constructor
  · intro octet
    unfold readOctet at octet
    split_ifs at octet with malformed padded small
    simp only [Bool.or_eq_true, List.isEmpty_iff, decide_eq_true_eq, Bool.not_eq_true',
      List.all_eq_false, not_or, not_exists, not_and, not_not] at malformed
    obtain ⟨⟨ne_nil, -⟩, digit⟩ := malformed
    obtain rfl := Option.some.inj octet
    -- No zero in front is what makes the digits those of the number.
    rw [UInt8.toNat_ofNat_of_lt' small]
    refine (Decimal.digits_value ne_nil digit fun head => ?_).symm
    by_contra long
    exact padded ⟨head, long⟩
  · rintro rfl
    have short := length_digits_octet x
    have digit : (Decimal.digits x.toNat).all Char.isDigit = true :=
      List.all_eq_true.2 fun d mem => Decimal.isDigit_of_mem_digits mem
    have value_lt : Decimal.value (Decimal.digits x.toNat) < 256 := by
      rw [Decimal.value_digits]
      exact x.toNat_lt
    unfold readOctet
    rw [if_neg (by simp [digit, Decimal.digits_ne_nil]; omega),
      if_neg fun padded => padded.2 (Decimal.length_digits_of_head padded.1), if_pos value_lt,
      Decimal.value_digits, UInt8.ofNat_toNat]

/-- The parts that points stand between. -/
def octets (q : Quad) : List (List Char) :=
  [q.a, q.b, q.c, q.d].map fun x => Decimal.digits x.toNat

theorem write_eq (q : Quad) : q.write = ['.'].intercalate q.octets := by
  simp [write, octets]

theorem isDigit_of_mem_octets {q : Quad} {ds : List Char} (ds_mem : ds ∈ q.octets) {d : Char}
    (mem : d ∈ ds) : d.isDigit = true := by
  obtain ⟨x, -, rfl⟩ := List.mem_map.1 ds_mem
  exact Decimal.isDigit_of_mem_digits mem

/-- Four octets are written in digits and points. -/
theorem of_mem_write {q : Quad} {c : Char} (mem : c ∈ q.write) : c = '.' ∨ c.isDigit = true := by
  rw [write_eq] at mem
  obtain rfl | ⟨ds, ds_mem, mem⟩ := mem_intercalate mem
  · exact .inl rfl
  · exact .inr (isDigit_of_mem_octets ds_mem mem)

theorem colon_notMem_write (q : Quad) : ':' ∉ q.write := fun mem => by
  simpa using of_mem_write mem

theorem point_mem_write (q : Quad) : '.' ∈ q.write := by
  rw [write_eq]
  exact mark_mem_intercalate (by simp [octets])

theorem write_ne_nil (q : Quad) : q.write ≠ [] := List.ne_nil_of_mem q.point_mem_write

theorem splitOn_write (q : Quad) : splitOn '.' q.write = q.octets := by
  rw [write_eq]
  refine splitOn_intercalate (fun ds ds_mem mem => ?_) (by simp [octets])
  simpa using isDigit_of_mem_octets ds_mem mem

/-- Four octets are read from their canonical text and from no other. -/
theorem read_eq_some_iff {cs : List Char} {q : Quad} : read cs = some q ↔ cs = q.write := by
  constructor
  · intro quad
    unfold read at quad
    split at quad
    next a b c d split_eq =>
      simp only [Option.bind_eq_bind, Option.bind_eq_some_iff, readOctet_eq_some_iff,
        Option.some.injEq] at quad
      obtain ⟨xa, rfl, xb, rfl, xc, rfl, xd, rfl, rfl⟩ := quad
      rw [← intercalate_splitOn '.' cs, split_eq, write_eq]
      rfl
    next => simp at quad
  · rintro rfl
    have octet (x : UInt8) : readOctet (Decimal.digits x.toNat) = some x :=
      readOctet_eq_some_iff.2 rfl
    unfold read
    rw [splitOn_write]
    simp [octets, octet]

theorem read_write (q : Quad) : read q.write = some q := read_eq_some_iff.2 rfl

end Quad

/-! ### Groups -/

namespace Address

/-- One to four hexadecimal digits of either case; zeros may stand in front. -/
def SpellsGroup (ds : List Char) (g : UInt16) : Prop :=
  ds.length ≤ 4 ∧
    ∃ zeros, ds.map Char.toLower = List.replicate zeros '0' ++ Hexadecimal.digits g.toNat

/-- Groups with colons between them. -/
def SpellsGroups (cs : List Char) (gs : List UInt16) : Prop :=
  ∃ parts, cs = [':'].intercalate parts ∧ List.Forall₂ SpellsGroup parts gs

/-- Groups with colons between them, or such groups with four octets as two more. -/
inductive SpellsTail : List Char → List UInt16 → Prop
  | groups {cs gs} (spells : SpellsGroups cs gs) : SpellsTail cs gs
  | octets {parts gs} (spells : List.Forall₂ SpellsGroup parts gs) (q : Quad) :
      SpellsTail ([':'].intercalate (parts ++ [q.write])) (gs ++ q.groups)

/-- A text stands for an address. -/
inductive Spells : List Char → Address → Prop
  | quad (q : Quad) : Spells q.write (.v4 q)
  | whole {cs gs} (spells : SpellsTail cs gs) (length_eq : gs.length = 8) :
      Spells cs (.v6 gs length_eq)
  | gap {front back gs hs} {missing : ℕ} (before : SpellsGroups front gs)
      (after : SpellsTail back hs) (pos : 0 < missing)
      (length_eq : (gs ++ List.replicate missing 0 ++ hs).length = 8) :
      Spells (front ++ ':' :: ':' :: back) (.v6 (gs ++ List.replicate missing 0 ++ hs) length_eq)

namespace SpellsGroup

variable {ds : List Char} {g : UInt16}

theorem ne_nil (spells : SpellsGroup ds g) : ds ≠ [] := by
  rintro rfl
  obtain ⟨zeros, eq⟩ := spells.2
  exact Hexadecimal.digits_ne_nil g.toNat (List.append_eq_nil_iff.1 eq.symm).2

theorem value?_eq (spells : SpellsGroup ds g) : Hexadecimal.value? ds = some g.toNat :=
  (Hexadecimal.value?_eq_some_iff spells.ne_nil).2 spells.2

theorem mem_hexadecimal (spells : SpellsGroup ds g) {c : Char} (mem : c ∈ ds) :
    c ∈ "0123456789abcdefABCDEF".toList := by
  obtain ⟨d, digit⟩ := Option.isSome_iff_exists.1 (Hexadecimal.digit?_of_mem spells.value?_eq c mem)
  exact Hexadecimal.mem_of_digit? digit

theorem colon_notMem (spells : SpellsGroup ds g) : ':' ∉ ds := fun mem => by
  simpa using spells.mem_hexadecimal mem

/-- A group is not four octets, since it has no points. -/
theorem quad_read (spells : SpellsGroup ds g) : Quad.read ds = none := by
  rw [Option.eq_none_iff_forall_ne_some]
  intro q quad
  obtain rfl := Quad.read_eq_some_iff.1 quad
  simpa using spells.mem_hexadecimal q.point_mem_write

end SpellsGroup

theorem readGroup_eq_some_iff {ds : List Char} {g : UInt16} :
    readGroup ds = some g ↔ SpellsGroup ds g := by
  constructor
  · intro group
    unfold readGroup at group
    split_ifs at group with malformed
    simp only [Bool.or_eq_true, List.isEmpty_iff, decide_eq_true_eq, not_or, not_lt] at malformed
    obtain ⟨ne_nil, short⟩ := malformed
    obtain ⟨n, value_eq, rfl⟩ := Option.map_eq_some_iff.1 group
    -- Four digits do not reach beyond a group.
    have n_lt : n < 2 ^ 16 := calc
      n < 16 ^ ds.length := Hexadecimal.value?_lt value_eq
      _ ≤ 16 ^ 4 := Nat.pow_le_pow_right (by omega) short
      _ = 2 ^ 16 := by decide
    refine ⟨short, ?_⟩
    rw [UInt16.toNat_ofNat_of_lt' n_lt]
    exact (Hexadecimal.value?_eq_some_iff ne_nil).1 value_eq
  · intro spells
    unfold readGroup
    rw [if_neg (by simp [spells.ne_nil, spells.1]), spells.value?_eq, Option.map_some,
      UInt16.ofNat_toNat]

theorem mapM_readGroup {parts : List (List Char)} {gs : List UInt16} :
    parts.mapM readGroup = some gs ↔ List.Forall₂ SpellsGroup parts gs := by
  simp only [mapM_eq_some_iff, readGroup_eq_some_iff]

theorem exists_spellsGroup {parts : List (List Char)} {gs : List UInt16}
    (spells : List.Forall₂ SpellsGroup parts gs) {part : List Char} (mem : part ∈ parts) :
    ∃ g, SpellsGroup part g := by
  induction spells with
  | nil => simp at mem
  | cons group _ ih =>
    obtain rfl | mem := List.mem_cons.1 mem
    · exact ⟨_, group⟩
    · exact ih mem

/-- Parts that colons can stand between and be found again. -/
def Parted (parts : List (List Char)) : Prop := ∀ part ∈ parts, ':' ∉ part ∧ part ≠ []

theorem parted_of_spells {parts : List (List Char)} {gs : List UInt16}
    (spells : List.Forall₂ SpellsGroup parts gs) : Parted parts := by
  intro part mem
  obtain ⟨g, group⟩ := exists_spellsGroup spells mem
  exact ⟨group.colon_notMem, group.ne_nil⟩

theorem Parted.append_write {parts : List (List Char)} (parted : Parted parts) (q : Quad) :
    Parted (parts ++ [q.write]) := by
  intro part mem
  obtain mem | mem := List.mem_append.1 mem
  · exact parted part mem
  · rw [List.mem_singleton.1 mem]
    exact ⟨q.colon_notMem_write, q.write_ne_nil⟩

theorem Parted.splitOn_eq {parts : List (List Char)} (parted : Parted parts) (ne_nil : parts ≠ []) :
    splitOn ':' ([':'].intercalate parts) = parts :=
  splitOn_intercalate (fun part mem => (parted part mem).1) ne_nil

theorem Parted.intercalate_ne_nil {parts : List (List Char)} (parted : Parted parts)
    (ne_nil : parts ≠ []) : [':'].intercalate parts ≠ [] := by
  intro empty
  -- A text of one part is that part, and the part is not empty.
  have split_eq := parted.splitOn_eq ne_nil
  rw [empty] at split_eq
  exact (parted [] (by rw [← split_eq]; exact List.mem_singleton_self _)).2 rfl

/-! ### Reading groups -/

variable {cs : List Char} {gs : List UInt16}

theorem readGroups_of_not_quad {quad : Bool} (ne_nil : cs ≠ [])
    (last : quad = true → (splitOn ':' cs).getLast?.bind Quad.read = none) :
    readGroups quad cs = (splitOn ':' cs).mapM readGroup := by
  unfold readGroups
  rw [if_neg (by simpa using ne_nil)]
  cases quad with
  | false => rfl
  | true => simp only [last rfl]

theorem readGroups_of_quad {q : Quad} (ne_nil : cs ≠ [])
    (last : (splitOn ':' cs).getLast?.bind Quad.read = some q) :
    readGroups true cs = ((splitOn ':' cs).dropLast.mapM readGroup).map (· ++ q.groups) := by
  unfold readGroups
  rw [if_neg (by simpa using ne_nil)]
  simp only [last]

/-- Groups without four octets are read as they are spelled. -/
theorem readGroups_of_spells (spells : SpellsGroups cs gs) (quad : Bool) :
    readGroups quad cs = some gs := by
  obtain ⟨parts, rfl, groups⟩ := spells
  rcases eq_or_ne parts [] with rfl | ne_nil
  · cases groups
    rfl
  · have parted := parted_of_spells groups
    have split_eq := parted.splitOn_eq ne_nil
    rw [readGroups_of_not_quad (parted.intercalate_ne_nil ne_nil), split_eq]
    · exact mapM_readGroup.2 groups
    · intro _
      obtain ⟨g, group⟩ := exists_spellsGroup groups (List.getLast_mem ne_nil)
      rw [split_eq, List.getLast?_eq_getLast_of_ne_nil ne_nil, Option.bind_some, group.quad_read]

theorem readGroups_false_eq_some_iff : readGroups false cs = some gs ↔ SpellsGroups cs gs := by
  refine ⟨fun groups => ?_, fun spells => readGroups_of_spells spells false⟩
  rcases eq_or_ne cs [] with rfl | ne_nil
  · obtain rfl := Option.some.inj groups
    exact ⟨[], rfl, .nil⟩
  · rw [readGroups_of_not_quad ne_nil (by simp), mapM_readGroup] at groups
    exact ⟨splitOn ':' cs, (intercalate_splitOn ':' cs).symm, groups⟩

theorem readGroups_true_eq_some_iff : readGroups true cs = some gs ↔ SpellsTail cs gs := by
  constructor
  · intro groups
    rcases eq_or_ne cs [] with rfl | ne_nil
    · obtain rfl := Option.some.inj groups
      exact .groups ⟨[], rfl, .nil⟩
    · cases last : (splitOn ':' cs).getLast?.bind Quad.read with
      | none =>
        rw [readGroups_of_not_quad ne_nil fun _ => last, mapM_readGroup] at groups
        exact .groups ⟨splitOn ':' cs, (intercalate_splitOn ':' cs).symm, groups⟩
      | some q =>
        -- The last part is the text of the octets, and the parts in front are groups.
        rw [readGroups_of_quad ne_nil last] at groups
        obtain ⟨hs, hs_eq, rfl⟩ := Option.map_eq_some_iff.1 groups
        obtain ⟨part, part_eq, quad⟩ := Option.bind_eq_some_iff.1 last
        obtain ⟨front, split_eq⟩ := List.getLast?_eq_some_iff.1 part_eq
        obtain rfl := Quad.read_eq_some_iff.1 quad
        rw [split_eq, List.dropLast_concat, mapM_readGroup] at hs_eq
        rw [← intercalate_splitOn ':' cs, split_eq]
        exact .octets hs_eq q
  · rintro (spells | ⟨spells, q⟩)
    · exact readGroups_of_spells spells true
    · next parts gs =>
      have parted := (parted_of_spells spells).append_write q
      have ne_nil : parts ++ [q.write] ≠ [] := by simp
      have split_eq := parted.splitOn_eq ne_nil
      rw [readGroups_of_quad (parted.intercalate_ne_nil ne_nil) (q := q), split_eq,
        List.dropLast_concat, mapM_readGroup.2 spells, Option.map_some]
      rw [split_eq, List.getLast?_concat, Option.bind_some, Quad.read_write]

/-! ### Reading addresses -/

theorem SpellsTail.exists_parts (spells : SpellsTail cs gs) :
    ∃ parts, cs = [':'].intercalate parts ∧ Parted parts := by
  obtain ⟨parts, rfl, groups⟩ | ⟨groups, q⟩ := spells
  · exact ⟨parts, rfl, parted_of_spells groups⟩
  · exact ⟨_, rfl, (parted_of_spells groups).append_write q⟩

/-- Two colons in a row are found behind the groups that they follow. -/
theorem SpellsTail.cutAt_append (spells : SpellsTail cs gs) (rest : List Char) :
    cutAt ':' (cs ++ rest) =
      (cutAt ':' rest).map fun (before, after) => (cs ++ before, after) := by
  obtain ⟨parts, rfl, parted⟩ := spells.exists_parts
  exact cutAt_intercalate_append (fun part mem => (parted part mem).1)
    (fun part mem => (parted part mem).2) rest

theorem SpellsTail.cutAt_eq_none (spells : SpellsTail cs gs) : cutAt ':' cs = none := by
  rw [← List.append_nil cs, spells.cutAt_append]
  rfl

theorem SpellsGroups.cutAt_gap (spells : SpellsGroups cs gs) (after : List Char) :
    cutAt ':' (cs ++ ':' :: ':' :: after) = some (cs, after) := by
  rw [(SpellsTail.groups spells).cutAt_append]
  simp [cutAt]

theorem ofGroups_eq_some_iff {a : Address} :
    ofGroups gs = some a ↔ ∃ length_eq, a = .v6 gs length_eq := by
  unfold ofGroups
  split_ifs with length_eq
  · simp [length_eq, eq_comm]
  · simp [length_eq]

theorem ofGroups_of_length (length_eq : gs.length = 8) : ofGroups gs = some (.v6 gs length_eq) :=
  ofGroups_eq_some_iff.2 ⟨length_eq, rfl⟩

/-- A text that is read as eight groups spells them. -/
theorem spells_of_readV6 {a : Address} (address : readV6 cs = some a) : Spells cs a := by
  unfold readV6 at address
  split at address
  next =>
    obtain ⟨gs, groups, whole⟩ := Option.bind_eq_some_iff.1 address
    obtain ⟨length_eq, rfl⟩ := ofGroups_eq_some_iff.1 whole
    exact .whole (readGroups_true_eq_some_iff.1 groups) length_eq
  next before after cut =>
    simp only [Option.bind_eq_bind, Option.bind_eq_some_iff] at address
    obtain ⟨gs, front, hs, back, joined⟩ := address
    split_ifs at joined with full
    obtain ⟨length_eq, rfl⟩ := ofGroups_eq_some_iff.1 joined
    rw [eq_of_cutAt cut]
    exact .gap (readGroups_false_eq_some_iff.1 front) (readGroups_true_eq_some_iff.1 back)
      (Nat.pos_of_ne_zero full) length_eq

/-- Eight groups are never read as four octets, since they have a colon. -/
theorem SpellsTail.colon_mem (spells : SpellsTail cs gs) (length_eq : gs.length = 8) :
    ':' ∈ cs := by
  obtain ⟨parts, rfl, groups⟩ | ⟨groups, q⟩ := spells
  · exact mark_mem_intercalate (by rw [groups.length_eq]; omega)
  · next parts gs =>
    have two : q.groups.length = 2 := rfl
    rw [List.length_append] at length_eq
    exact mark_mem_intercalate (by rw [List.length_append, groups.length_eq]; simp; omega)

theorem read_of_colon_mem (mem : ':' ∈ cs) : read cs = readV6 cs := by
  have quad : Quad.read cs = none := by
    rw [Option.eq_none_iff_forall_ne_some]
    intro q quad
    exact q.colon_notMem_write (Quad.read_eq_some_iff.1 quad ▸ mem)
  rw [read, quad]

theorem readV6_whole (spells : SpellsTail cs gs) (length_eq : gs.length = 8) :
    readV6 cs = some (.v6 gs length_eq) := by
  rw [readV6, spells.cutAt_eq_none, readGroups_true_eq_some_iff.2 spells]
  exact ofGroups_of_length length_eq

theorem readV6_gap {front back : List Char} {gs hs : List UInt16} {missing : ℕ}
    (before : SpellsGroups front gs) (after : SpellsTail back hs) (pos : 0 < missing)
    (length_eq : (gs ++ List.replicate missing 0 ++ hs).length = 8) :
    readV6 (front ++ ':' :: ':' :: back) =
      some (.v6 (gs ++ List.replicate missing 0 ++ hs) length_eq) := by
  have missing_eq : 8 - (gs.length + hs.length) = missing := by
    simp only [List.length_append, List.length_replicate] at length_eq
    omega
  unfold readV6
  rw [before.cutAt_gap]
  simp only [readGroups_false_eq_some_iff.2 before, readGroups_true_eq_some_iff.2 after,
    Option.bind_eq_bind, Option.bind_some, missing_eq, if_neg pos.ne']
  exact ofGroups_of_length length_eq

/-- A text that spells an address is read as it. -/
theorem read_of_spells {a : Address} (spells : Spells cs a) : read cs = some a := by
  cases spells with
  | quad q => rw [read, Quad.read_write]
  | whole groups length_eq =>
    rw [read_of_colon_mem (groups.colon_mem length_eq), readV6_whole groups length_eq]
  | gap before after pos length_eq =>
    rw [read_of_colon_mem (by simp), readV6_gap before after pos length_eq]

/-- A text is read as an address if it spells the address. -/
theorem read_eq_some_iff {a : Address} : read cs = some a ↔ Spells cs a := by
  refine ⟨fun address => ?_, read_of_spells⟩
  unfold read at address
  split at address
  next q quad =>
    obtain rfl := Option.some.inj address
    obtain rfl := Quad.read_eq_some_iff.1 quad
    exact .quad q
  next => exact spells_of_readV6 address

/-- A text stands for one address at most. -/
theorem Spells.unique {a b : Address} (spells : Spells cs a) (spells' : Spells cs b) : a = b :=
  Option.some.inj ((read_of_spells spells).symm.trans (read_of_spells spells'))

/-! ### The characters of a spelling -/

/-- The characters that addresses are spelled in. -/
def spellingChars : List Char := "0123456789abcdefABCDEF:.".toList

theorem mem_spellingChars_of_isDigit {c : Char} (digit : c.isDigit = true) :
    c ∈ spellingChars :=
  of_ascii (p := fun c => c.isDigit = true → c ∈ spellingChars) (by decide)
    (Decimal.toNat_lt_of_isDigit digit) digit

theorem mem_spellingChars_of_mem_write {q : Quad} {c : Char} (mem : c ∈ q.write) :
    c ∈ spellingChars := by
  obtain rfl | digit := Quad.of_mem_write mem
  · decide
  · exact mem_spellingChars_of_isDigit digit

theorem mem_spellingChars_of_mem_intercalate {parts : List (List Char)}
    (all : ∀ part ∈ parts, ∀ c ∈ part, c ∈ spellingChars) {c : Char}
    (mem : c ∈ [':'].intercalate parts) : c ∈ spellingChars := by
  obtain rfl | ⟨part, part_mem, mem⟩ := mem_intercalate mem
  · decide
  · exact all part part_mem c mem

theorem mem_spellingChars_of_group {parts : List (List Char)}
    (spells : List.Forall₂ SpellsGroup parts gs) {part : List Char} (part_mem : part ∈ parts)
    {c : Char} (mem : c ∈ part) : c ∈ spellingChars := by
  obtain ⟨g, group⟩ := exists_spellsGroup spells part_mem
  exact List.mem_append_left ":.".toList (group.mem_hexadecimal mem)

theorem SpellsTail.mem_spellingChars (spells : SpellsTail cs gs) {c : Char} (mem : c ∈ cs) :
    c ∈ spellingChars := by
  obtain ⟨parts, rfl, groups⟩ | ⟨groups, q⟩ := spells
  · exact mem_spellingChars_of_mem_intercalate
      (fun part part_mem c => mem_spellingChars_of_group groups part_mem) mem
  · refine mem_spellingChars_of_mem_intercalate (fun part part_mem c mem => ?_) mem
    obtain part_mem | part_mem := List.mem_append.1 part_mem
    · exact mem_spellingChars_of_group groups part_mem mem
    · rw [List.mem_singleton.1 part_mem] at mem
      exact mem_spellingChars_of_mem_write mem

theorem Spells.mem_spellingChars {a : Address} (spells : Spells cs a) {c : Char} (mem : c ∈ cs) :
    c ∈ spellingChars := by
  cases spells with
  | quad q => exact mem_spellingChars_of_mem_write mem
  | whole groups => exact groups.mem_spellingChars mem
  | gap before after =>
    rw [List.mem_append, List.mem_cons, List.mem_cons] at mem
    obtain mem | rfl | rfl | mem := mem
    · exact (SpellsTail.groups before).mem_spellingChars mem
    · decide
    · decide
    · exact after.mem_spellingChars mem

theorem Spells.ne_nil {a : Address} (spells : Spells cs a) : cs ≠ [] := by
  cases spells with
  | quad q => exact q.write_ne_nil
  | whole groups length_eq => exact List.ne_nil_of_mem (groups.colon_mem length_eq)
  | gap => simp

end Address

end Floodgate
