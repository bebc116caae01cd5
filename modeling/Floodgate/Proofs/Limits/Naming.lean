import Floodgate.Limits.Json
import Floodgate.Proofs.Json.Records
import Floodgate.Proofs.Limits.Culprit

/-!
# Limits are read by name

A text stands for limits when each of their members is given once and with a value that the member
accepts. Where in the object a member stands, what other members stand around it and how the text
is set do not matter.

## Main definitions

* `Limits.Member.Value`, `Limits.Member.read`, `Limits.Member.field` — the type of a member's
  value, how it is read and where the limits keep it
* `Limits.Member.Accepts` — the text of a value that a member accepts

## Main results

* `Limits.readJson_object_iff`, `Limits.readJson_array_iff` — when an object and an array are read
  as limits
* `Limits.readJson_by_name` — what the order of members, other members and missing ones do
-/

namespace Floodgate

/-- The span of time that a value names. -/
def Json.Found.span : Json.Found → Except Json.Fault Span
  | .text s =>
    match Span.read s.toList with
    | .ok d => .ok d
    | .error e =>
      if e.isCrash then .error (.crashed e.message)
      else .error (Json.Found.wrongValue (.text s) "a duration")
  | v => .error (v.wrongType "a duration")

theorem Json.judges_readSpan : Json.Judges Json.readSpan Json.Found.span where
  reader_eq cs := by
    unfold Json.readSpan Json.readStringAs
    cases Json.readFound cs with
    | error e => rfl
    | ok p =>
      obtain ⟨v, cs⟩ := p
      match v with
      | .text s =>
        cases read : Span.read s.toList with
        | ok d => simp [Json.Found.span, read, Bind.bind, Except.bind, Except.map]
        | error e =>
          by_cases crash : e.isCrash = true <;>
            simp [Json.Found.span, read, crash, Bind.bind, Except.bind, Except.map]
      | .number _ | .null | .bool _ | .array | .object => rfl
  array a := by simp [Json.Found.span]
  object a := by simp [Json.Found.span]

namespace Limits

open Json

namespace Member

/-- All members, in their order. -/
def all : List Member := [ipRate, ipBurst, globalRate, globalBurst, sweepInterval]

/-- The type of a member's value. -/
def Value : Member → Type
  | ipRate | globalRate => Binary64
  | ipBurst | globalBurst => UInt32
  | sweepInterval => Span

/-- How a member is read. -/
def read : (m : Member) → Json.Reader m.Value
  | ipRate | globalRate => Json.readBinary64
  | ipBurst | globalBurst => Json.readUInt32
  | sweepInterval => Json.readSpan

/-- The member of limits. -/
def field : (m : Member) → Limits → m.Value
  | ipRate => Limits.ipRate
  | ipBurst => Limits.ipBurst
  | globalRate => Limits.globalRate
  | globalBurst => Limits.globalBurst
  | sweepInterval => Limits.sweepInterval

/-- Its place in a draft. -/
def place : (m : Member) → Draft → Option m.Value
  | ipRate => Draft.ipRate
  | ipBurst => Draft.ipBurst
  | globalRate => Draft.globalRate
  | globalBurst => Draft.globalBurst
  | sweepInterval => Draft.sweepInterval

/-- The draft with a value in the member's place. -/
def put : (m : Member) → m.Value → Draft → Draft
  | ipRate => fun v d => { d with ipRate := some v }
  | ipBurst => fun v d => { d with ipBurst := some v }
  | globalRate => fun v d => { d with globalRate := some v }
  | globalBurst => fun v d => { d with globalBurst := some v }
  | sweepInterval => fun v d => { d with sweepInterval := some v }

/-- The slot of the member. -/
def slot (m : Member) : Json.Slot Draft := .ofReader m.name m.read m.place m.put

/-- By itself, the text is read as the value that the limits have. -/
def Accepts (m : Member) (v : List Char) (l : Limits) : Prop := m.read v = .ok (m.field l, [])

theorem definite_read (m : Member) : Json.Definite m.read := by
  cases m with
  | ipRate | globalRate => exact Json.judges_readBinary64.definite
  | ipBurst | globalBurst => exact Json.judges_readUInt32.definite
  | sweepInterval => exact Json.judges_readSpan.definite

theorem mem_all (m : Member) : m ∈ all := by cases m <;> decide

variable {m other : Member} {d d' : Draft}

@[simp]
theorem place_put (m : Member) (a : m.Value) (d : Draft) : m.place (m.put a d) = some a := by
  cases m <;> rfl

theorem place_put_of_ne (ne : other ≠ m) (a : m.Value) (d : Draft) :
    other.place (m.put a d) = other.place d := by
  cases m <;> cases other <;> first | rfl | exact absurd rfl ne

theorem ext_place (same : ∀ m : Member, m.place d = m.place d') : d = d' := by
  obtain ⟨_, _, _, _, _⟩ := d
  obtain ⟨_, _, _, _, _⟩ := d'
  rw [Draft.mk.injEq]
  exact ⟨same ipRate, same ipBurst, same globalRate, same globalBurst, same sweepInterval⟩

/-- Limits as a draft. -/
theorem exists_place_eq (l : Limits) : ∃ d, ∀ m : Member, m.place d = some (m.field l) := by
  refine ⟨⟨l.ipRate, l.ipBurst, l.globalRate, l.globalBurst, l.sweepInterval⟩, fun m => ?_⟩
  cases m <;> rfl

end Member

variable {m : Member} {d d' : Draft} {l : Limits} {x : String × List Char}
  {ms : List (String × List Char)} {vs : List (List Char)} {text : String}

/-! ### Members one by one -/

theorem record_slots : record.slots = Member.all.map Member.slot := rfl

theorem definite_record : record.Definite := by
  intro slot mem d
  rw [record_slots] at mem
  obtain ⟨m, -, rfl⟩ := List.mem_map.1 mem
  exact m.definite_read.ofReader

theorem required_eq_ok_iff {β : Type} {name : String} {place : Option β} {b : β} :
    required name place = .ok b ↔ place = some b := by
  cases place <;> simp [required]

theorem reads_slot_iff {v : List Char} (value : IsValue v) :
    Reads (m.slot.fill d) v d' ↔ ∃ a, m.read v = .ok (a, []) ∧ d' = m.put a d :=
  m.definite_read.reads_ofReader_iff value

theorem finish_eq_ok_iff :
    record.finish d = .ok l ↔ ∀ m : Member, m.place d = some (m.field l) := by
  simp only [record, bind_eq_ok_iff, required_eq_ok_iff, Except.ok.injEq]
  constructor
  · rintro ⟨_, h1, _, h2, _, h3, _, h4, _, h5, rfl⟩ m
    cases m <;> assumption
  · intro filled
    exact ⟨_, filled .ipRate, _, filled .ipBurst, _, filled .globalRate, _, filled .globalBurst, _,
      filled .sweepInterval, rfl⟩

theorem find?_slots (m : Member) : record.slots.find? (·.name = m.name) = some m.slot := by
  cases m <;> rfl

theorem find?_slots_eq_none {name : String} (unknown : ∀ m : Member, m.name ≠ name) :
    record.slots.find? (·.name = name) = none := by
  simp only [record_slots, List.find?_map, Option.map_eq_none_iff, List.find?_eq_none]
  intro m _ same
  exact unknown m (of_decide_eq_true same)

/-- A member fills its own place, if nothing is there, and another member none. -/
theorem places_iff (value : IsValue x.2) :
    record.Places d x d' ↔
      ((∀ m : Member, m.name ≠ x.1) ∧ d' = d) ∨
        ∃ (m : Member) (a : m.Value), m.name = x.1 ∧ m.place d = none ∧
          m.read x.2 = .ok (a, []) ∧ d' = m.put a d := by
  constructor
  · rintro (missing | ⟨found, empty, reads⟩)
    · refine .inl ⟨fun m same => ?_, rfl⟩
      rw [← same, find?_slots] at missing
      cases missing
    · by_cases known : ∃ m : Member, m.name = x.1
      · obtain ⟨m, same⟩ := known
        rw [← same, find?_slots, Option.some.injEq] at found
        subst found
        obtain ⟨a, read, rfl⟩ := (reads_slot_iff value).1 reads
        exact .inr ⟨m, a, same, by simpa [Member.slot, Slot.ofReader] using empty, read, rfl⟩
      · rw [find?_slots_eq_none (not_exists.1 known)] at found
        cases found
  · rintro (⟨unknown, rfl⟩ | ⟨m, a, same, empty, read, rfl⟩)
    · exact .unknown (find?_slots_eq_none unknown)
    · have found := find?_slots m
      rw [same] at found
      exact .slot found (by simp [Member.slot, Slot.ofReader, empty])
        ((reads_slot_iff value).2 ⟨a, read, rfl⟩)

/-! ### Members together -/

/-- The values that the members of that name have in an object. -/
def valuesOf (m : Member) (ms : List (String × List Char)) : List (List Char) :=
  (ms.filter (·.1 = m.name)).map Prod.snd

theorem valuesOf_cons_self (same : m.name = x.1) : valuesOf m (x :: ms) = x.2 :: valuesOf m ms := by
  simp [valuesOf, same]

theorem valuesOf_cons_of_ne (other : m.name ≠ x.1) : valuesOf m (x :: ms) = valuesOf m ms := by
  simp [valuesOf, Ne.symm other]

/-- What an object makes of a member's place: it has no such member and leaves the place as it
is, or one that is accepted and that fills the place. -/
def Settles (m : Member) (ms : List (String × List Char)) (before after : Option m.Value) : Prop :=
  valuesOf m ms = [] ∧ after = before ∨
    ∃ v a, valuesOf m ms = [v] ∧ m.read v = .ok (a, []) ∧ before = none ∧ after = some a

theorem settles_cons_of_ne (other : m.name ≠ x.1) {before after : Option m.Value} :
    Settles m (x :: ms) before after ↔ Settles m ms before after := by
  simp only [Settles, valuesOf_cons_of_ne other]

/-- A member fills its place, and no further one may follow. -/
theorem settles_cons_self (same : m.name = x.1) {before after : Option m.Value} :
    Settles m (x :: ms) before after ↔
      ∃ a, m.read x.2 = .ok (a, []) ∧ before = none ∧ Settles m ms (some a) after := by
  simp only [Settles, valuesOf_cons_self same]
  constructor
  · rintro (⟨none, -⟩ | ⟨v, a, one, read, empty, rfl⟩)
    · cases none
    · obtain ⟨rfl, rest⟩ := List.cons.inj one
      exact ⟨a, read, empty, .inl ⟨rest, rfl⟩⟩
  · rintro ⟨a, read, empty, ⟨rest, rfl⟩ | ⟨_, _, _, _, filled, _⟩⟩
    · exact .inr ⟨x.2, a, by rw [rest], read, empty, rfl⟩
    · cases filled

/-- Once a member has filled its place, the others settle the places with it. -/
theorem settles_put_iff {other : Member} {a : m.Value} {after : Option other.Value}
    (same : m.name = x.1) (read : m.read x.2 = .ok (a, [])) (empty : m.place d = none) :
    Settles other (x :: ms) (other.place d) after ↔
      Settles other ms (other.place (m.put a d)) after := by
  by_cases eq : other = m
  · subst eq
    rw [settles_cons_self same, Member.place_put]
    constructor
    · rintro ⟨b, read', -, settled⟩
      rw [read, Except.ok.injEq, Prod.mk.injEq] at read'
      rwa [read'.1]
    · intro settled
      exact ⟨a, read, empty, settled⟩
  · have apart : other.name ≠ x.1 := fun named => eq (Member.name_injective (named.trans same.symm))
    rw [settles_cons_of_ne apart, Member.place_put_of_ne eq]

theorem takesAll_cons_iff :
    record.TakesAll d (x :: ms) d' ↔ ∃ d₁, record.Takes d x d₁ ∧ record.TakesAll d₁ ms d' := by
  constructor
  · rintro (_ | ⟨takes, rest⟩)
    exact ⟨_, takes, rest⟩
  · rintro ⟨d₁, takes, rest⟩
    exact .cons takes rest

/-- The members of an object are taken when each place is settled by itself. -/
theorem takesAll_iff (values : ∀ x ∈ ms, IsValue x.2) :
    record.TakesAll d ms d' ↔ ∀ m : Member, Settles m ms (m.place d) (m.place d') := by
  induction ms generalizing d with
  | nil =>
    constructor
    · rintro ⟨⟩ m
      exact .inl ⟨rfl, rfl⟩
    · intro settled
      have same : d = d' := Member.ext_place fun m => by
        rcases settled m with ⟨-, same⟩ | ⟨v, a, one, -⟩
        · exact same.symm
        · cases one
      exact same ▸ .nil
  | cons x ms ih =>
    obtain ⟨value, values⟩ := List.forall_mem_cons.1 values
    simp only [takesAll_cons_iff, definite_record.takes_iff value, places_iff value, ih values]
    -- A member concerns the place of its own name only, and all other places are as before.
    constructor
    · rintro ⟨d₁, ⟨unknown, rfl⟩ | ⟨m, a, same, empty, read, rfl⟩, settled⟩ other
      · exact (settles_cons_of_ne (unknown other)).2 (settled other)
      · exact (settles_put_iff same read empty).2 (settled other)
    · intro settled
      by_cases known : ∃ m : Member, m.name = x.1
      · obtain ⟨m, same⟩ := known
        obtain ⟨a, read, empty, -⟩ := (settles_cons_self same).1 (settled m)
        exact ⟨_, .inr ⟨m, a, same, empty, read, rfl⟩, fun other =>
          (settles_put_iff same read empty).1 (settled other)⟩
      · have unknown := not_exists.1 known
        exact ⟨d, .inl ⟨unknown, rfl⟩, fun other =>
          (settles_cons_of_ne (unknown other)).1 (settled other)⟩

theorem readJson_object_iff (spells : SpellsObject text.toList ms) :
    readJson text = .ok l ↔ ∀ m : Member, ∃ v, valuesOf m ms = [v] ∧ m.Accepts v l := by
  rw [readJson, definite_record.read_eq_ok_iff_takesAll spells]
  simp only [takesAll_iff spells.isValue, finish_eq_ok_iff]
  have blank (m : Member) : m.place record.blank = none := by cases m <;> rfl
  constructor
  · rintro ⟨d, settled, filled⟩ m
    rcases settled m with ⟨-, same⟩ | ⟨v, a, one, read, -, same⟩
    · rw [filled, blank] at same
      cases same
    · obtain rfl := Option.some.inj ((filled m).symm.trans same)
      exact ⟨v, one, read⟩
  · intro given
    obtain ⟨d, filled⟩ := Member.exists_place_eq l
    refine ⟨d, fun m => ?_, filled⟩
    obtain ⟨v, one, accepted⟩ := given m
    exact .inr ⟨v, m.field l, one, accepted, blank m, filled m⟩

/-- Items fill the places of their members and leave the others as they are. -/
theorem fills_iff {members : List Member} (apart : members.Nodup) (values : ∀ v ∈ vs, IsValue v) :
    Record.Fills (members.map Member.slot) d vs d' ↔
      List.Forall₂ (fun m v => ∃ a, m.read v = .ok (a, []) ∧ m.place d' = some a) members vs ∧
        ∀ m : Member, m ∉ members → m.place d' = m.place d := by
  induction members generalizing d vs with
  | nil =>
    constructor
    · rintro ⟨⟩
      exact ⟨.nil, fun _ _ => rfl⟩
    · rintro ⟨⟨⟩, same⟩
      have same : d' = d := Member.ext_place fun m => same m List.not_mem_nil
      exact same ▸ .nil
  | cons m members ih =>
    obtain ⟨notAgain, apart⟩ := List.nodup_cons.1 apart
    -- What the first item has filled is left as it is by the others.
    have kept {a : m.Value} : (∀ other : Member, other ∉ members →
        other.place d' = other.place (m.put a d)) ↔
          m.place d' = some a ∧ ∀ other : Member, other ∉ m :: members →
            other.place d' = other.place d := by
      constructor
      · intro same
        refine ⟨by rw [same m notAgain, Member.place_put], fun other out => ?_⟩
        obtain ⟨ne, out⟩ := not_or.1 (List.mem_cons.not.1 out)
        rw [same other out, Member.place_put_of_ne ne]
      · rintro ⟨first, same⟩ other out
        by_cases eq : other = m
        · rw [eq, first, Member.place_put]
        · rw [same other (by simp [eq, out]), Member.place_put_of_ne eq]
    constructor
    · intro fills
      cases fills with
      | cons reads fills =>
        obtain ⟨value, values⟩ := List.forall_mem_cons.1 values
        obtain ⟨a, read, rfl⟩ := (reads_slot_iff value).1 reads
        obtain ⟨others, same⟩ := (ih apart values).1 fills
        obtain ⟨first, same⟩ := kept.1 same
        exact ⟨.cons ⟨a, read, first⟩ others, same⟩
    · rintro ⟨_ | ⟨⟨a, read, first⟩, others⟩, same⟩
      obtain ⟨value, values⟩ := List.forall_mem_cons.1 values
      exact .cons ((reads_slot_iff value).2 ⟨a, read, rfl⟩)
        ((ih apart values).2 ⟨others, kept.2 ⟨first, same⟩⟩)

theorem readJson_array_iff (spells : SpellsArray text.toList vs) :
    readJson text = .ok l ↔ List.Forall₂ (fun m v => Member.Accepts m v l) Member.all vs := by
  rw [readJson, definite_record.read_eq_ok_iff_fills (by decide) spells]
  have apart : Member.all.Nodup := by decide
  simp only [record_slots, fills_iff apart spells.isValue, finish_eq_ok_iff]
  constructor
  · rintro ⟨d, ⟨items, -⟩, filled⟩
    refine items.imp fun m v ⟨a, read, same⟩ => ?_
    rw [filled, Option.some.injEq] at same
    rwa [Member.Accepts, same]
  · intro items
    obtain ⟨d, filled⟩ := Member.exists_place_eq l
    exact ⟨d, ⟨items.imp fun m v read => ⟨_, read, filled m⟩, fun m out => absurd m.mem_all out⟩,
      filled⟩

/-! ### What the arrangement does -/

theorem length_valuesOf (m : Member) (ms : List (String × List Char)) :
    (valuesOf m ms).length = (ms.map Prod.fst).count m.name := by
  rw [List.count, List.countP_map, List.countP_eq_length_filter, valuesOf, List.length_map]
  rfl

/-- The members of five names, in any order and among others. -/
theorem valuesOf_eq_singleton {v : Member → List Char}
    (perm : (ms.filter fun x => x.1 ∈ Member.all.map Member.name).Perm
      (Member.all.map fun m => (m.name, v m))) (m : Member) : valuesOf m ms = [v m] := by
  have known : ms.filter (·.1 = m.name) =
      (ms.filter fun x => x.1 ∈ Member.all.map Member.name).filter (·.1 = m.name) := by
    rw [List.filter_filter]
    refine List.filter_congr fun x _ => ?_
    have : x.1 = m.name → x.1 ∈ Member.all.map Member.name := fun same =>
      List.mem_map.2 ⟨m, m.mem_all, same.symm⟩
    simpa using this
  have one : (Member.all.map fun m => (m.name, v m)).filter (·.1 = m.name) = [(m.name, v m)] := by
    cases m <;> rfl
  have perm := perm.filter (·.1 = m.name)
  rw [one, List.perm_singleton] at perm
  rw [valuesOf, known, perm]
  rfl

/-- Limits are read by the names of their members. Five values that are accepted give the same
limits in any order, with any blanks, among any other members, and in an array in their own order;
an object that lacks a member or has it more than once and an array of another length give none. -/
theorem readJson_by_name (l : Limits) (v : Member → List Char)
    (accepted : ∀ m : Member, m.Accepts (v m) l) :
    (∀ text ms, SpellsObject text.toList ms →
      (ms.filter fun x => x.1 ∈ Member.all.map Member.name).Perm
        (Member.all.map fun m => (m.name, v m)) → readJson text = .ok l) ∧
    (∀ text, SpellsArray text.toList (Member.all.map v) → readJson text = .ok l) ∧
    (∀ text ms, SpellsObject text.toList ms →
      (∃ m : Member, (ms.map Prod.fst).count m.name ≠ 1) → ∃ e, readJson text = .error e) ∧
    ∀ text vs, SpellsArray text.toList vs → vs.length ≠ 5 → ∃ e, readJson text = .error e := by
  refine ⟨fun text ms spells perm => ?_, fun text spells => ?_, fun text ms spells ⟨m, apart⟩ => ?_,
    fun text vs spells other => ?_⟩
  · exact (readJson_object_iff spells).2 fun m => ⟨v m, valuesOf_eq_singleton perm m, accepted m⟩
  · refine (readJson_array_iff spells).2 ?_
    rw [List.forall₂_map_right_iff, List.forall₂_same]
    exact fun m _ => accepted m
  · -- A member that is missing or repeated has not a single value.
    cases read : readJson text with
    | error e => exact ⟨e, rfl⟩
    | ok l' =>
      obtain ⟨w, one, -⟩ := (readJson_object_iff spells).1 read m
      rw [← length_valuesOf, one] at apart
      exact absurd rfl apart
  · cases read : readJson text with
    | error e => exact ⟨e, rfl⟩
    | ok l' => exact absurd ((readJson_array_iff spells).1 read).length_eq.symm other

/-- The standard limits, the last member first and others in between. -/
theorem readJson_shuffled :
    readJson (Json.object [("sweep_interval", .text "10m"), ("note", .text "ip_rate"),
      ("global_burst", .natural 200), ("global_rate", .natural 100), ("note", .natural 7),
      ("ip_burst", .natural 20), ("ip_rate", .natural 10)]).render = .ok standard := by
  let v : Member → List Char
    | .ipRate => (Json.natural 10).write
    | .ipBurst => (Json.natural 20).write
    | .globalRate => (Json.natural 100).write
    | .globalBurst => (Json.natural 200).write
    | .sweepInterval => (Json.text "10m").write
  have accepted (m : Member) : m.Accepts (v m) standard := by
    cases m with
    | ipRate => show Json.readBinary64 _ = .ok (standard.ipRate, []); decide +kernel
    | ipBurst => show Json.readUInt32 _ = .ok (standard.ipBurst, []); decide +kernel
    | globalRate => show Json.readBinary64 _ = .ok (standard.globalRate, []); decide +kernel
    | globalBurst => show Json.readUInt32 _ = .ok (standard.globalBurst, []); decide +kernel
    | sweepInterval => show Json.readSpan _ = .ok (standard.sweepInterval, []); decide +kernel
  refine (readJson_by_name standard v accepted).1 _ _ (spellsObject_render fun m mem => ?_) ?_
  · simp only [List.mem_cons, List.not_mem_nil, or_false] at mem
    rcases mem with rfl | rfl | rfl | rfl | rfl | rfl | rfl
    all_goals first | exact isValue_text _ | exact isValue_natural _
  · decide +kernel

end Limits

end Floodgate
