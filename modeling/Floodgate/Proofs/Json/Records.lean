import Floodgate.Proofs.Json.Judging
import Floodgate.Proofs.Json.Members

/-!
# Which records a text gives

A record whose slots take well-formed values as a whole is read off an object exactly when its
members can be taken one after the other, and off an array exactly when its items fill the slots
in their order. Nothing else is read as that record, and nothing is read as part of it.

## Main definitions

* `Json.SpellsArray` — an array, blanks around it, with the texts of its items
* `Json.Record.Fills` — what the items of an array make of a draft
* `Json.Record.Definite` — a record whose slots take well-formed values as a whole

## Main results

* `Json.Record.read_eq_ok_iff_takesAll`, `Json.Record.read_eq_ok_iff_fills` — when an object and
  an array are read as a record
-/

namespace Floodgate.Json

/-! ### Arrays -/

/-- The items of an array behind one of them, and its closing bracket, with the texts of the
items. -/
inductive SpellsItems : List Char → List (List Char) → Prop
  | close {bs : List Char} (before : IsBlanks bs) : SpellsItems (bs ++ [']']) []
  | more {bs bs' v cs : List Char} {vs : List (List Char)} (before : IsBlanks bs)
      (between : IsBlanks bs') (value : IsValue v) (items : SpellsItems cs vs) :
      SpellsItems (bs ++ ',' :: (bs' ++ (v ++ cs))) (v :: vs)

/-- An array with blanks around it, and the texts of its items. -/
inductive SpellsArray : List Char → List (List Char) → Prop
  | empty {bs bs' bs'' : List Char} (before : IsBlanks bs) (within : IsBlanks bs')
      (behind : IsBlanks bs'') : SpellsArray (bs ++ '[' :: (bs' ++ ']' :: bs'')) []
  | items {bs bs' v cs bs'' : List Char} {vs : List (List Char)} (before : IsBlanks bs)
      (between : IsBlanks bs') (value : IsValue v) (items : SpellsItems cs vs)
      (behind : IsBlanks bs'') :
      SpellsArray (bs ++ '[' :: (bs' ++ (v ++ (cs ++ bs'')))) (v :: vs)

variable {cs rest rest' : List Char} {vs : List (List Char)} {m : String × List Char}
  {ms : List (String × List Char)}

theorem SpellsItems.isEnd_append (spells : SpellsItems cs vs) (rest : List Char) :
    IsEnd (cs ++ rest) := by
  cases spells with
  | close before =>
    rw [List.append_assoc]
    exact IsEnd.append_cons before (by decide) rest
  | more before =>
    rw [List.append_assoc]
    exact IsEnd.append_cons before (by decide) _

theorem SpellsItems.isValue (spells : SpellsItems cs vs) : ∀ v ∈ vs, IsValue v := by
  induction spells with
  | close => simp
  | more _ _ value _ ih => exact List.forall_mem_cons.2 ⟨value, ih⟩

/-- The items of an array are well-formed values. -/
theorem SpellsArray.isValue (spells : SpellsArray cs vs) : ∀ v ∈ vs, IsValue v := by
  cases spells with
  | empty => simp
  | items _ _ value items => exact List.forall_mem_cons.2 ⟨value, items.isValue⟩

/-! ### Slots with a place -/

section Slot

variable {δ β : Type} {reader : Reader β} {d d' : δ} {name : String} {get : δ → Option β}
  {put : β → δ → δ} {v : List Char}

theorem Slot.fill_ofReader_eq_ok_iff :
    (ofReader name reader get put).fill d cs = .ok (d', rest) ↔
      ∃ b, reader cs = .ok (b, rest) ∧ d' = put b d := by
  simp only [ofReader, bind_eq_ok_iff, Except.ok.injEq, Prod.mk.injEq]
  constructor
  · rintro ⟨⟨b, _⟩, read, rfl, rfl⟩
    exact ⟨b, read, rfl⟩
  · rintro ⟨b, read, rfl⟩
    exact ⟨(b, rest), read, rfl, rfl⟩

/-- A slot with a place takes the values that its reader takes. -/
theorem Definite.ofReader (definite : Definite reader) :
    Definite ((Slot.ofReader name reader get put).fill d) := by
  intro v bs cs d' rest value blanks ends filled
  obtain ⟨b, read, rfl⟩ := Slot.fill_ofReader_eq_ok_iff.1 filled
  obtain ⟨rfl, reads⟩ := definite v bs cs b rest value blanks ends read
  refine ⟨rfl, fun bs cs blanks ends => ?_⟩
  exact Slot.fill_ofReader_eq_ok_iff.2 ⟨b, reads bs cs blanks ends, rfl⟩

theorem Definite.reads_ofReader_iff (definite : Definite reader) (value : IsValue v) :
    Reads ((Slot.ofReader name reader get put).fill d) v d' ↔
      ∃ b, reader v = .ok (b, []) ∧ d' = put b d := by
  rw [definite.ofReader.reads_iff value, Slot.fill_ofReader_eq_ok_iff]

end Slot

namespace Record

variable {δ α : Type} {r : Record δ α} {d d' : δ} {a : α}

/-- The slots take well-formed values as a whole. -/
def Definite (r : Record δ α) : Prop := ∀ slot ∈ r.slots, ∀ d, Json.Definite (slot.fill d)

/-! ### Members -/

/-- A member of another name leaves the draft as it is. -/
theorem takes_unknown (unknown : r.slots.find? (·.name = m.1) = none) (value : IsValue m.2) :
    r.Takes d m d := by
  intro bs blanks bs' cs blanks' ends
  have colon := skipMark_append_cons blanks (by rfl : isBlank ':' = false)
  simp [readMember, unknown, colon, value.skipValue_append blanks' ends, Bind.bind, Except.bind]

/-- A member with a place that is still empty fills its slot. -/
theorem takes_slot {slot : Slot δ} (found : r.slots.find? (·.name = m.1) = some slot)
    (empty : slot.isFilled d = false) (reads : Reads (slot.fill d) m.2 d') : r.Takes d m d' := by
  intro bs blanks bs' cs blanks' ends
  have colon := skipMark_append_cons blanks (by rfl : isBlank ':' = false)
  simp [readMember, found, empty, colon, reads bs' cs blanks' ends, Bind.bind, Except.bind]

/-- What a member makes of a draft: nothing if its name is no slot's, and else what its slot
makes of it, if that is not filled already. -/
inductive Places (r : Record δ α) (d : δ) (m : String × List Char) : δ → Prop
  | unknown (missing : r.slots.find? (·.name = m.1) = none) : Places r d m d
  | slot {slot : Slot δ} {d' : δ} (found : r.slots.find? (·.name = m.1) = some slot)
      (empty : slot.isFilled d = false) (reads : Reads (slot.fill d) m.2 d') : Places r d m d'

theorem Definite.places_of_readMember (definite : r.Definite) {bs bs' : List Char}
    (value : IsValue m.2) (blanks : IsBlanks bs) (blanks' : IsBlanks bs') (ends : IsEnd cs)
    (read : r.readMember m.1 d (bs ++ ':' :: (bs' ++ (m.2 ++ cs))) = .ok (d', rest)) :
    r.Places d m d' := by
  have colon := skipMark_append_cons blanks (by rfl : isBlank ':' = false)
  have skipped := value.skipValue_append blanks' ends
  unfold readMember at read
  cases found : r.slots.find? (·.name = m.1) with
  | none =>
    obtain ⟨rfl, -⟩ : d = d' ∧ cs = rest := by
      simpa [found, colon, skipped, Bind.bind, Except.bind] using read
    exact .unknown found
  | some slot =>
    simp only [found, colon] at read
    split_ifs at read with filled
    have reads := definite slot (List.mem_of_find?_eq_some found) d _ _ _ _ _ value blanks' ends
      (by simpa [bind_eq_ok_iff] using read)
    exact .slot found (by simpa using filled) reads.2

theorem Definite.takes_iff (definite : r.Definite) (value : IsValue m.2) :
    r.Takes d m d' ↔ r.Places d m d' := by
  constructor
  · intro takes
    exact definite.places_of_readMember value isBlanks_nil isBlanks_nil isEnd_nil
      (takes [] isBlanks_nil [] [] isBlanks_nil isEnd_nil)
  · rintro (missing | ⟨found, empty, reads⟩)
    · exact takes_unknown missing value
    · exact takes_slot found empty reads

theorem Definite.exists_takes (definite : r.Definite) (spells : SpellsMember cs m) {mark : Char}
    (mark_mem : mark ∈ [',', '\x7d']) {fuel : ℕ} {d'' : δ}
    (read : r.readMembers (fuel + 1) d (cs ++ mark :: rest) = .ok (d'', rest')) :
    ∃ d', r.Takes d m d' := by
  obtain @⟨bs₁, k, bs₂, bs₃, v, bs₄, name, before, key, between, between', value, behind⟩ := spells
  obtain ⟨tail, rfl, named⟩ := key.readText_append
  have start := skipMark_append_cons before (by rfl : isBlank '"' = false)
  cases taken : r.readMember name d (bs₂ ++ ':' :: (bs₃ ++ (v ++ (bs₄ ++ mark :: rest)))) with
  | error e => simp [readMembers, start, named, taken, Bind.bind, Except.bind] at read
  | ok p =>
    have ends := IsEnd.append_mark behind mark_mem rest
    have places : r.Places d (name, v) p.1 :=
      definite.places_of_readMember value between between' ends taken
    exact ⟨p.1, (definite.takes_iff value).2 places⟩

theorem Definite.takesAll_of_readMembers (definite : r.Definite) (spells : SpellsMembers cs ms)
    {fuel : ℕ} (read : r.readMembers fuel d (cs ++ rest) = .ok (d', rest')) :
    r.TakesAll d ms d' ∧ rest' = rest := by
  induction spells generalizing d fuel with
  | last member =>
    cases fuel with
    | zero => simp [readMembers] at read
    | succ fuel =>
      rw [List.append_assoc, List.singleton_append] at read
      obtain ⟨d'', takes⟩ := definite.exists_takes member (by decide) read
      rw [readMembers_member_append member takes (by decide), if_neg (by decide)] at read
      obtain ⟨rfl, rfl⟩ := Prod.mk.inj (Except.ok.inj read)
      exact ⟨.cons takes .nil, rfl⟩
  | more member members ih =>
    cases fuel with
    | zero => simp [readMembers] at read
    | succ fuel =>
      rw [List.append_assoc, List.cons_append] at read
      obtain ⟨d'', takes⟩ := definite.exists_takes member (by decide) read
      rw [readMembers_member_append member takes (by decide), if_pos rfl] at read
      obtain ⟨others, rfl⟩ := ih read
      exact ⟨.cons takes others, rfl⟩

theorem finished_eq_ok_iff : r.finished d = .ok a ↔ r.finish d = .ok a := by
  unfold finished
  cases r.finish d <;> simp

theorem read_eq_ok_iff {text : String} :
    r.read text = .ok a ↔
      ∃ rest, r.readValue text.toList = .ok (a, rest) ∧ skipBlanks rest = [] := by
  simp only [Record.read, bind_eq_ok_iff]
  constructor
  · rintro ⟨⟨a', rest⟩, value, read⟩
    split_ifs at read with whole
    obtain rfl := Except.ok.inj read
    exact ⟨rest, value, List.isEmpty_iff.1 whole⟩
  · rintro ⟨rest, value, whole⟩
    exact ⟨_, value, if_pos (List.isEmpty_iff.2 whole)⟩

/-- An object is read as a record exactly when its members are taken one after the other. -/
theorem Definite.read_eq_ok_iff_takesAll (definite : r.Definite) {text : String}
    (spells : SpellsObject text.toList ms) :
    r.read text = .ok a ↔ ∃ d, r.TakesAll r.blank ms d ∧ r.finish d = .ok a := by
  refine ⟨fun read => ?_, fun ⟨d, takes, finish⟩ => read_eq_of_takesAll spells takes finish⟩
  obtain ⟨rest, value, -⟩ := read_eq_ok_iff.1 read
  generalize text.toList = cs at spells value
  cases spells with
  | @empty bs₁ bs₂ bs₃ before within behind =>
    have closed := skipBlanks_append_cons within (by decide : isBlank '\x7d' = false) bs₃
    simp [readValue, readFound_object before, closed, bind_eq_ok_iff] at value
    exact ⟨r.blank, .nil, finished_eq_ok_iff.1 value.1⟩
  | @members bs cs bs' ms before members behind =>
    obtain ⟨tail, members, skipped⟩ := members.skipBlanks_append
    simp [readValue, readFound_object before, skipped, bind_eq_ok_iff] at value
    obtain ⟨d, taken, finished⟩ := value
    exact ⟨d, (definite.takesAll_of_readMembers members taken).1, finished_eq_ok_iff.1 finished⟩

/-! ### Items -/

/-- The items fill the slots, one after the other. -/
inductive Fills : List (Slot δ) → δ → List (List Char) → δ → Prop
  | nil {d : δ} : Fills [] d [] d
  | cons {slot : Slot δ} {slots : List (Slot δ)} {d d' d'' : δ} {v : List Char}
      {vs : List (List Char)} (reads : Reads (slot.fill d) v d') (rest : Fills slots d' vs d'') :
      Fills (slot :: slots) d (v :: vs) d''

/-- A slot reads its item, and the others read what stands behind it. -/
theorem fill_bind_eq_ok_iff {slot : Slot δ} {slots : List (Slot δ)} {v : List Char}
    (definite : Json.Definite (slot.fill d)) (value : IsValue v) (spells : SpellsItems cs vs)
    (ih : ∀ d d' rest', r.readItems slots d (cs ++ rest) = .ok (d', rest') ↔
      rest' = rest ∧ Fills slots d vs d') :
    (slot.fill d (v ++ (cs ++ rest)) >>= fun p => r.readItems slots p.1 p.2) = .ok (d', rest') ↔
      rest' = rest ∧ Fills (slot :: slots) d (v :: vs) d' := by
  have ends := spells.isEnd_append rest
  rw [bind_eq_ok_iff]
  constructor
  · rintro ⟨⟨d'', rest''⟩, filled, others⟩
    obtain ⟨rfl, reads⟩ := definite v [] _ _ _ value isBlanks_nil ends filled
    obtain ⟨rfl, fills⟩ := (ih _ _ _).1 others
    exact ⟨rfl, .cons reads fills⟩
  · rintro ⟨rfl, fills⟩
    cases fills with
    | cons reads fills =>
      exact ⟨_, reads [] _ isBlanks_nil ends, (ih _ _ _).2 ⟨rfl, fills⟩⟩

theorem skipBlanks_append_value {bs v : List Char} (blanks : IsBlanks bs) (value : IsValue v)
    (cs : List Char) :
    ∃ c tail, v ++ cs = c :: tail ∧ c ≠ ']' ∧ skipBlanks (bs ++ (v ++ cs)) = c :: tail := by
  obtain ⟨c, tail, rfl, head⟩ := value.exists_cons
  obtain ⟨shows, other, -⟩ := head.shows
  exact ⟨c, tail ++ cs, rfl, other, skipBlanks_append_cons blanks shows _⟩

/-- The slots that are left behind the first one are filled by the items that are left. -/
theorem readItems_append_iff {slots : List (Slot δ)}
    (definite : ∀ slot ∈ slots, ∀ d, Json.Definite (slot.fill d))
    (later : slots.length < r.slots.length) (spells : SpellsItems cs vs) :
    r.readItems slots d (cs ++ rest) = .ok (d', rest') ↔ rest' = rest ∧ Fills slots d vs d' := by
  induction spells generalizing slots d d' rest' with
  | @close bs before =>
    have closed := skipBlanks_append_cons before (by decide : isBlank ']' = false) rest
    cases slots with
    | nil =>
      have fills : Fills [] d [] d' ↔ d = d' := ⟨fun h => by cases h; rfl, fun h => h ▸ .nil⟩
      simp [readItems, closed, fills, eq_comm, and_comm]
    | cons slot slots =>
      have fills : ¬Fills (slot :: slots) d [] d' := by rintro ⟨⟩
      simp [readItems, closed, fills]
  | @more bs bs' v cs vs before between value items ih =>
    have marked := skipBlanks_append_cons before (by decide : isBlank ',' = false)
      (bs' ++ (v ++ (cs ++ rest)))
    cases slots with
    | nil =>
      have fills : ¬Fills [] d (v :: vs) d' := by rintro ⟨⟩
      simp [readItems, marked, fills]
    | cons slot slots =>
      obtain ⟨others, definite⟩ := List.forall_mem_cons.1 definite
      rw [List.length_cons] at later
      obtain ⟨c, tail, eq, other, first⟩ := skipBlanks_append_value between value (cs ++ rest)
      rw [← fill_bind_eq_ok_iff (others d) value items fun d d' rest' => ih definite (by omega), eq]
      have count : r.slots.length - (slots.length + 1) ≠ 0 := by omega
      simp [readItems, marked, count, first, other]

/-- An array is read as a record exactly when its items fill the slots. -/
theorem Definite.read_eq_ok_iff_fills (definite : r.Definite) (nonempty : r.slots ≠ [])
    {text : String} (spells : SpellsArray text.toList vs) :
    r.read text = .ok a ↔ ∃ d, Fills r.slots r.blank vs d ∧ r.finish d = .ok a := by
  obtain ⟨slot, slots, eq⟩ := List.exists_cons_of_ne_nil nonempty
  rw [read_eq_ok_iff]
  generalize text.toList = cs at spells
  cases spells with
  | @empty bs₁ bs₂ bs₃ before within behind =>
    have closed := skipBlanks_append_cons within (by decide : isBlank ']' = false) bs₃
    have fills (d : δ) : ¬Fills (slot :: slots) r.blank [] d := by rintro ⟨⟩
    simp [readValue, readFound_array before, eq, readItems, closed, fills, Bind.bind, Except.bind]
  | @items bs bs' v cs bs'' vs before between value items behind =>
    obtain ⟨c, tail, eq', other, first⟩ := skipBlanks_append_value between value (cs ++ bs'')
    have items_eq : r.readItems r.slots r.blank (bs' ++ (v ++ (cs ++ bs''))) =
        (slot.fill r.blank (v ++ (cs ++ bs'')) >>= fun p => r.readItems slots p.1 p.2) := by
      rw [eq, readItems, first, eq']
      simp [eq]
    have taken (d : δ) (rest : List Char) :
        r.readItems r.slots r.blank (bs' ++ (v ++ (cs ++ bs''))) = .ok (d, rest) ↔
          rest = bs'' ∧ Fills r.slots r.blank (v :: vs) d := by
      rw [items_eq, eq]
      refine fill_bind_eq_ok_iff (definite slot (by simp [eq]) _) value items fun d d' rest' => ?_
      exact readItems_append_iff (fun slot mem => definite slot (by simp [eq, mem])) (by simp [eq])
        items
    have whole : skipBlanks bs'' = [] := by
      rw [← List.append_nil bs'', skipBlanks_append behind]
      rfl
    have value_eq : r.readValue (bs ++ '[' :: (bs' ++ (v ++ (cs ++ bs'')))) =
        (r.readItems r.slots r.blank (bs' ++ (v ++ (cs ++ bs''))) >>= fun p =>
          r.finished p.1 >>= fun a => .ok (a, p.2)) := by
      simp only [readValue, readFound_array before]
      rfl
    simp only [value_eq, bind_eq_ok_iff, finished_eq_ok_iff]
    constructor
    · rintro ⟨_, ⟨⟨d, _⟩, read, a', finish, result⟩, -⟩
      obtain ⟨rfl, -⟩ := Prod.mk.inj (Except.ok.inj result)
      exact ⟨d, ((taken d _).1 read).2, finish⟩
    · rintro ⟨d, fills, finish⟩
      exact ⟨bs'', ⟨⟨d, bs''⟩, (taken d _).2 ⟨rfl, fills⟩, a, finish, rfl⟩, whole⟩

end Record

end Floodgate.Json
