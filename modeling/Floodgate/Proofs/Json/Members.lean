import Floodgate.Json.Record
import Floodgate.Proofs.Json.Reading

/-!
# Records read from the members of an object

A record is read from an object one member after the other. What a member does to the draft is a
matter of its name and the text of its value; the blanks around it do not matter.

## Main definitions

* `Record.Takes` — what one member makes of a draft
* `Record.TakesAll` — what the members of an object make of it, one after the other

## Main results

* `Record.takes_ofReader` — a member is put in its place in the draft
* `Record.readMembers_append` — the members of an object are taken one after the other
* `Record.read_eq_of_takesAll` — the record is the one that the last draft is finished to
-/

namespace Floodgate.Json

variable {cs : List Char} {m : String × List Char} {ms : List (String × List Char)}

/-! ### Where members begin -/

/-- Without the blanks that it begins with, a member is a member that begins with its name. -/
theorem SpellsMember.skipBlanks_append (spells : SpellsMember cs m) :
    ∃ tail, SpellsMember ('"' :: tail) m ∧
      ∀ rest, skipBlanks (cs ++ rest) = '"' :: tail ++ rest := by
  obtain ⟨before, ⟨content, spells, rfl⟩, between, between', value, behind⟩ := spells
  have member := SpellsMember.mk isBlanks_nil ⟨content, spells, rfl⟩ between between' value behind
  refine ⟨_, member, ?_⟩
  intro rest
  have skipped := Json.skipBlanks_append before
  have shows := skipBlanks_cons (by rfl : isBlank '"' = false)
  simp [skipped, shows]

theorem SpellsMembers.skipBlanks_append (spells : SpellsMembers cs ms) :
    ∃ tail, SpellsMembers ('"' :: tail) ms ∧
      ∀ rest, skipBlanks (cs ++ rest) = '"' :: tail ++ rest := by
  cases spells with
  | last member =>
    obtain ⟨tail, member, skipped⟩ := member.skipBlanks_append
    exact ⟨tail ++ ['\x7d'], .last member, fun rest => by simp [skipped]⟩
  | more member members =>
    obtain ⟨tail, member, skipped⟩ := member.skipBlanks_append
    exact ⟨_, .more member members, fun rest => by simp [skipped]⟩

theorem SpellsMembers.length_le (spells : SpellsMembers cs ms) : ms.length ≤ cs.length := by
  induction spells with
  | last member => simp
  | more member members ih =>
    simp only [List.length_cons, List.length_append]
    omega

theorem SpellsMembers.isValue (spells : SpellsMembers cs ms) : ∀ m ∈ ms, IsValue m.2 := by
  have of_member {cs : List Char} {m : String × List Char} (spells : SpellsMember cs m) :
      IsValue m.2 := by
    obtain ⟨-, -, -, -, value, -⟩ := spells
    exact value
  induction spells with
  | last member => simpa using of_member member
  | more member _ ih => exact List.forall_mem_cons.2 ⟨of_member member, ih⟩

/-- The members of an object have well-formed values. -/
theorem SpellsObject.isValue (spells : SpellsObject cs ms) : ∀ m ∈ ms, IsValue m.2 := by
  cases spells with
  | empty => simp
  | members _ members => exact members.isValue

namespace Record

variable {δ α : Type} {r : Record δ α} {d d' : δ}

/-! ### One member -/

/-- The member turns the draft `d` into `d'`, whatever blanks are around the colon. -/
def Takes (r : Record δ α) (d : δ) (m : String × List Char) (d' : δ) : Prop :=
  ∀ bs, IsBlanks bs → Reads (fun cs => r.readMember m.1 d (bs ++ ':' :: cs)) m.2 d'

/-- A member whose place is still empty is put there. -/
theorem takes_ofReader {β : Type} {name : String} {v : List Char} {b : β} {reader : Reader β}
    {get : δ → Option β} {put : β → δ → δ}
    (found : r.slots.find? (·.name = name) = some (.ofReader name reader get put))
    (empty : get d = none) (reads : Reads reader v b) (filled : put b d = d') :
    r.Takes d (name, v) d' := by
  subst filled
  intro bs blanks bs' cs blanks' ends
  have colon := skipMark_append_cons blanks (by rfl : isBlank ':' = false)
  simp [readMember, found, Slot.ofReader, empty, colon, reads bs' cs blanks' ends, Bind.bind,
    Except.bind]

/-- A member is taken, and the mark behind it decides how it goes on. -/
theorem readMembers_member_append (spells : SpellsMember cs m) (takes : r.Takes d m d')
    {mark : Char} (mark_mem : mark ∈ [',', '\x7d']) (fuel : ℕ) (rest : List Char) :
    r.readMembers (fuel + 1) d (cs ++ mark :: rest) =
      if mark = ',' then r.readMembers fuel d' rest else .ok (d', rest) := by
  obtain ⟨before, key, between, between', -, behind⟩ := spells
  obtain ⟨tail, rfl, read⟩ := key.readText_append
  have taken := takes _ between _ _ between' (IsEnd.append_mark behind mark_mem rest)
  have start := skipMark_append_cons before (by rfl : isBlank '"' = false)
  simp only [List.mem_cons, List.not_mem_nil, or_false] at mark_mem
  rcases mark_mem with rfl | rfl
  · have behind := skipBlanks_append_cons behind (by decide : isBlank ',' = false) rest
    simp [readMembers, start, read, taken, behind, Bind.bind, Except.bind]
  · have behind := skipBlanks_append_cons behind (by decide : isBlank '\x7d' = false) rest
    simp [readMembers, start, read, taken, behind, Bind.bind, Except.bind]

/-! ### All members -/

/-- The members turn the draft `d` into `d'`, one after the other. -/
inductive TakesAll (r : Record δ α) : δ → List (String × List Char) → δ → Prop
  | nil {d : δ} : TakesAll r d [] d
  | cons {d d' d'' : δ} {m : String × List Char} {ms : List (String × List Char)}
      (takes : r.Takes d m d') (rest : TakesAll r d' ms d'') : TakesAll r d (m :: ms) d''

theorem readMembers_append (spells : SpellsMembers cs ms) (takes : r.TakesAll d ms d')
    {fuel : ℕ} (enough : ms.length ≤ fuel) (rest : List Char) :
    r.readMembers fuel d (cs ++ rest) = .ok (d', rest) := by
  -- The bound goes down by one with each member.
  induction spells generalizing d fuel with
  | last member =>
    obtain ⟨fuel, rfl⟩ := Nat.exists_eq_add_one_of_ne_zero (Nat.ne_zero_of_lt enough)
    cases takes with
    | cons takes none =>
      cases none
      rw [List.append_assoc, List.singleton_append,
        readMembers_member_append member takes (by decide), if_neg (by decide)]
  | more member members ih =>
    obtain ⟨fuel, rfl⟩ := Nat.exists_eq_add_one_of_ne_zero (Nat.ne_zero_of_lt enough)
    cases takes with
    | cons takes more =>
      rw [List.append_assoc, List.cons_append,
        readMembers_member_append member takes (by decide), if_pos rfl]
      exact ih more (Nat.le_of_succ_le_succ enough)

theorem readValue_eq_of_takesAll {a : α} (spells : SpellsObject cs ms)
    (takes : r.TakesAll r.blank ms d) (finish : r.finish d = .ok a) :
    ∃ bs, IsBlanks bs ∧ r.readValue cs = .ok (a, bs) := by
  have finished : r.finished d = .ok a := by rw [Record.finished, finish]
  cases spells with
  | @empty bs bs' bs'' before within behind =>
    cases takes
    have closed := skipBlanks_append_cons within (by decide : isBlank '\x7d' = false) bs''
    refine ⟨bs'', behind, ?_⟩
    simp [readValue, readFound_object before, closed, finished, Bind.bind, Except.bind]
  | @members bs cs bs' ms before members behind =>
    -- The blanks before the first member are gone before it is known whether there is one.
    obtain ⟨tail, members, skipped⟩ := members.skipBlanks_append
    have enough : ms.length ≤ tail.length + bs'.length + 1 := by
      have := members.length_le
      rw [List.length_cons] at this
      omega
    have read := readMembers_append members takes enough bs'
    rw [List.cons_append] at read
    refine ⟨bs', behind, ?_⟩
    simp [readValue, readFound_object before, skipped, read, finished, Bind.bind, Except.bind]

/-- The record that an object is read as. -/
theorem read_eq_of_takesAll {text : String} {a : α} (spells : SpellsObject text.toList ms)
    (takes : r.TakesAll r.blank ms d) (finish : r.finish d = .ok a) : r.read text = .ok a := by
  obtain ⟨bs, blanks, value⟩ := readValue_eq_of_takesAll spells takes finish
  have none : skipBlanks bs = [] := by
    rw [← List.append_nil bs, skipBlanks_append blanks]
    rfl
  simp [Record.read, value, none, Bind.bind, Except.bind]

end Record

end Floodgate.Json
