import Floodgate.Proofs.Json.Records

/-!
# Records refused for one value

The first value of a record that cannot be read decides what is told of the whole text: the
members and the items before it have been taken, and what stands behind it is not looked at.

## Main definitions

* `Json.Refuses` — a reader that refuses a value with one fault, whatever is around it

## Main results

* `Json.Judges.refuses` — a value that is judged badly is refused
* `Json.Record.read_eq_error_of_member`, `Json.Record.read_eq_error_of_item` — the fault of one
  member and of one item is the fault of the record
-/

namespace Floodgate.Json

variable {cs rest v : List Char} {x : String × List Char} {front back : List (String × List Char)}
  {e : Fault}

/-- The reader refuses the value `v` with a fault, whatever blanks are before it and whatever is
behind it. -/
def Refuses {α : Type} (reader : Reader α) (v : List Char) (e : Fault) : Prop :=
  ∀ bs cs, IsBlanks bs → IsEnd cs → reader (bs ++ (v ++ cs)) = .error e

theorem Judges.refuses {α : Type} {reader : Reader α} {judge : Found → Except Fault α}
    (judges : Judges reader judge) {x : Found} (found : Reads readFound v x)
    (judged : judge x = .error e) : Refuses reader v e := by
  intro bs cs blanks ends
  rw [judges.reader_eq, found bs cs blanks ends]
  simp [Except.bind, judged, Except.map]

theorem Refuses.ofReader {δ β : Type} {reader : Reader β} {d : δ} {name : String}
    {get : δ → Option β} {put : β → δ → δ} (refuses : Refuses reader v e) :
    Refuses ((Slot.ofReader name reader get put).fill d) v e := by
  intro bs cs blanks ends
  simp [Slot.ofReader, refuses bs cs blanks ends, Bind.bind, Except.bind]

namespace Record

variable {δ α : Type} {r : Record δ α} {slot : Slot δ} {d d' : δ}

/-! ### Members -/

theorem readMembers_member_error (spells : SpellsMember cs x)
    (found : r.slots.find? (·.name = x.1) = some slot) (empty : slot.isFilled d = false)
    (refuses : Refuses (slot.fill d) x.2 e) {mark : Char} (mark_mem : mark ∈ [',', '\x7d'])
    (fuel : ℕ) (rest : List Char) :
    r.readMembers (fuel + 1) d (cs ++ mark :: rest) = .error e := by
  obtain @⟨bs₁, k, bs₂, bs₃, v, bs₄, name, before, key, between, between', -, behind⟩ := spells
  obtain ⟨tail, rfl, named⟩ := key.readText_append
  have start := skipMark_append_cons before (by rfl : isBlank '"' = false)
  have colon := skipMark_append_cons between (by rfl : isBlank ':' = false)
  have refused := refuses bs₃ _ between' (IsEnd.append_mark behind mark_mem rest)
  simp [readMembers, readMember, start, named, found, empty, colon, refused, Bind.bind,
    Except.bind]

/-- The members before a refused one are taken, and those behind it do not matter. -/
theorem readMembers_error (spells : SpellsMembers cs (front ++ x :: back))
    (takes : r.TakesAll d front d') (found : r.slots.find? (·.name = x.1) = some slot)
    (empty : slot.isFilled d' = false) (refuses : Refuses (slot.fill d') x.2 e) {fuel : ℕ}
    (enough : front.length < fuel) (rest : List Char) :
    r.readMembers fuel d (cs ++ rest) = .error e := by
  induction takes generalizing cs fuel with
  | nil =>
    obtain ⟨fuel, rfl⟩ := Nat.exists_eq_add_one_of_ne_zero (Nat.ne_zero_of_lt enough)
    generalize members : [] ++ x :: back = ms at spells
    cases spells with
    | last member =>
      obtain ⟨rfl, -⟩ := List.cons.inj members
      rw [List.append_assoc, List.singleton_append]
      exact readMembers_member_error member found empty refuses (by decide) fuel rest
    | more member =>
      obtain ⟨rfl, -⟩ := List.cons.inj members
      rw [List.append_assoc, List.cons_append]
      exact readMembers_member_error member found empty refuses (by decide) fuel _
  | @cons d d₁ d' m front takes _ ih =>
    obtain ⟨fuel, rfl⟩ := Nat.exists_eq_add_one_of_ne_zero (Nat.ne_zero_of_lt enough)
    generalize members : (m :: front) ++ x :: back = ms at spells
    cases spells with
    | last member =>
      obtain ⟨-, none⟩ := List.cons.inj members
      exact absurd none (by simp)
    | more member others =>
      obtain ⟨rfl, rfl⟩ := List.cons.inj members
      rw [List.append_assoc, List.cons_append,
        readMembers_member_append member takes (by decide), if_pos rfl]
      exact ih others empty refuses (Nat.lt_of_succ_lt_succ enough)

/-- The fault of a member is the fault of the record, once the members before it are taken. -/
theorem read_eq_error_of_member {text : String}
    (spells : SpellsObject text.toList (front ++ x :: back))
    (takes : r.TakesAll r.blank front d) (found : r.slots.find? (·.name = x.1) = some slot)
    (empty : slot.isFilled d = false) (refuses : Refuses (slot.fill d) x.2 e) :
    r.read text = .error e := by
  suffices value : r.readValue text.toList = .error e by
    simp [Record.read, value, Bind.bind, Except.bind]
  generalize text.toList = cs at spells ⊢
  generalize all : front ++ x :: back = ms at spells
  cases spells with
  | empty => exact absurd all (by simp)
  | @members bs cs bs' ms before members behind =>
    subst all
    obtain ⟨tail, members, skipped⟩ := members.skipBlanks_append
    have enough : front.length < tail.length + bs'.length + 1 := by
      have := members.length_le
      simp only [List.length_cons, List.length_append] at this
      omega
    have read := readMembers_error members takes found empty refuses enough bs'
    rw [List.cons_append] at read
    simp [readValue, readFound_object before, skipped, read, Bind.bind, Except.bind]

/-! ### Items -/

section Items

variable {before after : List (Slot δ)} {vs others : List (List Char)}

/-- Behind the first item, the next one is read by the next slot. -/
theorem readItems_cons_append {slots : List (Slot δ)} {bs bs' : List Char}
    (later : (slot :: slots).length < r.slots.length) (blanks : IsBlanks bs)
    (blanks' : IsBlanks bs') (value : IsValue v) (cs : List Char) :
    r.readItems (slot :: slots) d (bs ++ ',' :: (bs' ++ (v ++ cs))) =
      (slot.fill d (v ++ cs) >>= fun p => r.readItems slots p.1 p.2) := by
  rw [List.length_cons] at later
  have marked := skipBlanks_append_cons blanks (by decide : isBlank ',' = false)
    (bs' ++ (v ++ cs))
  obtain ⟨c, tail, eq, other, first⟩ := skipBlanks_append_value blanks' value cs
  have count : r.slots.length - (slots.length + 1) ≠ 0 := by omega
  rw [eq] at marked first ⊢
  simp [readItems, marked, count, first, other]

theorem readItems_error (fills : Fills before d vs d') (refuses : Refuses (slot.fill d') v e)
    (spells : SpellsItems cs (vs ++ v :: others))
    (later : (before ++ slot :: after).length < r.slots.length) (rest : List Char) :
    r.readItems (before ++ slot :: after) d (cs ++ rest) = .error e := by
  induction fills generalizing cs with
  | nil =>
    generalize items : [] ++ v :: others = vs at spells
    cases spells with
    | close => cases items
    | more blanks blanks' value spells =>
      obtain ⟨rfl, rfl⟩ := List.cons.inj items
      simp only [List.append_assoc, List.cons_append, List.nil_append]
      rw [readItems_cons_append later blanks blanks' value]
      have refused := refuses [] _ isBlanks_nil (spells.isEnd_append rest)
      rw [List.nil_append] at refused
      rw [refused]
      rfl
  | @cons first before d d₁ d' w ws reads _ ih =>
    generalize items : (w :: ws) ++ v :: others = vs at spells
    cases spells with
    | close => cases items
    | more blanks blanks' value spells =>
      obtain ⟨rfl, rfl⟩ := List.cons.inj items
      rw [List.cons_append] at later
      simp only [List.append_assoc, List.cons_append]
      rw [readItems_cons_append later blanks blanks' value]
      have read := reads [] _ isBlanks_nil (spells.isEnd_append rest)
      rw [List.nil_append] at read
      rw [read]
      exact ih refuses spells (Nat.lt_of_succ_lt later)

/-- The fault of an item is the fault of the record, once the items before it fill their slots. -/
theorem read_eq_error_of_item {text : String} (spells : SpellsArray text.toList (vs ++ v :: others))
    (slots : r.slots = before ++ slot :: after) (fills : Fills before r.blank vs d)
    (refuses : Refuses (slot.fill d) v e) : r.read text = .error e := by
  suffices value : r.readValue text.toList = .error e by
    simp [Record.read, value, Bind.bind, Except.bind]
  generalize text.toList = cs at spells ⊢
  generalize all : vs ++ v :: others = items at spells
  cases spells with
  | empty => exact absurd all (by simp)
  | @items bs bs' w cs bs'' ws blanks between value spells behind =>
    obtain ⟨c, tail, eq, other, first⟩ := skipBlanks_append_value between value (cs ++ bs'')
    -- The first item stands behind no comma.
    have start {slot : Slot δ} {slots : List (Slot δ)} (all : r.slots = slot :: slots) :
        r.readItems r.slots r.blank (bs' ++ (w ++ (cs ++ bs''))) =
          (slot.fill r.blank (w ++ (cs ++ bs'')) >>= fun p => r.readItems slots p.1 p.2) := by
      rw [all, readItems, first, eq]
      simp [all]
    have ends := spells.isEnd_append bs''
    suffices read : r.readItems r.slots r.blank (bs' ++ (w ++ (cs ++ bs''))) = .error e by
      simp [readValue, readFound_array blanks, read, Bind.bind, Except.bind]
    cases fills with
    | nil =>
      obtain ⟨rfl, rfl⟩ := List.cons.inj all
      have refused := refuses [] _ isBlanks_nil ends
      rw [List.nil_append] at refused
      rw [start slots, refused]
      rfl
    | cons reads fills =>
      obtain ⟨rfl, rfl⟩ := List.cons.inj all
      have read := reads [] _ isBlanks_nil ends
      rw [List.nil_append] at read
      rw [start slots, read]
      exact readItems_error fills refuses spells (by rw [slots]; simp) bs''

end Items

end Record

end Floodgate.Json
