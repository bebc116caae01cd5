import Floodgate.Proofs.Json.Refusals
import Floodgate.Proofs.Limits.Naming

/-!
# The interval in a text of limits

When all other members are given and accepted, what becomes of a text of limits is a matter of the
sweep interval alone: its text is read as a span, and the limits have that span or the fault of
that text is told, wherever in the text of the limits it stands.

## Main definitions

* `Limits.GivesInterval` — a JSON text that gives the interval as some text

## Main results

* `Limits.GivesInterval.readJson_eq` — the limits, or the fault, from the text of the interval
* `Limits.givesInterval_render` — limits that are written with any text as their interval
-/

namespace Floodgate.Limits

open Json

/-- A JSON text that gives the sweep interval as a text, and every other member as the limits have
it: an object, in any order and among other members, or an array. -/
inductive GivesInterval (json text : String) (l : Limits) : Prop
  | object {ms : List (String × List Char)} {v : List Char}
      (spells : SpellsObject json.toList ms) (one : valuesOf .sweepInterval ms = [v])
      (string : SpellsText v text)
      (others : ∀ m : Member, m ≠ .sweepInterval → ∃ w, valuesOf m ms = [w] ∧ m.Accepts w l)
  | array {vs : List (List Char)} {v : List Char} (spells : SpellsArray json.toList (vs ++ [v]))
      (string : SpellsText v text)
      (others : List.Forall₂ (fun m w => Member.Accepts m w l)
        [.ipRate, .ipBurst, .globalRate, .globalBurst] vs)

variable {json text : String} {l : Limits} {m : Member} {v w : List Char} {d : Span} {e : Fault}
  {ms : List (String × List Char)}

/-! ### Members before the interval -/

theorem Member.Accepts.of_ne (accepts : m.Accepts w l) (ne : m ≠ .sweepInterval) (d : Span) :
    m.Accepts w { l with sweepInterval := d } := by
  cases m with
  | sweepInterval => exact absurd rfl ne
  | ipRate | ipBurst | globalRate | globalBurst => exact accepts

/-- Any places make a draft. -/
theorem Member.exists_place (places : (m : Member) → Option m.Value) :
    ∃ d : Draft, ∀ m : Member, m.place d = places m := by
  refine ⟨⟨places .ipRate, places .ipBurst, places .globalRate, places .globalBurst,
    places .sweepInterval⟩, fun m => ?_⟩
  cases m <;> rfl

theorem valuesOf_append (m : Member) (ms ms' : List (String × List Char)) :
    valuesOf m (ms ++ ms') = valuesOf m ms ++ valuesOf m ms' := by
  simp [valuesOf]

/-- A member that an object has once stands behind members of other names. -/
theorem exists_split (one : valuesOf m ms = [v]) :
    ∃ front back, ms = front ++ (m.name, v) :: back ∧ valuesOf m front = [] := by
  obtain ⟨x, named, rfl⟩ := List.map_eq_singleton_iff.1 one
  obtain ⟨front, back, rfl, before, same, -⟩ := List.filter_eq_cons_iff.1 named
  obtain ⟨name, v⟩ := x
  obtain rfl : name = m.name := of_decide_eq_true same
  refine ⟨front, back, rfl, ?_⟩
  rw [valuesOf, List.filter_eq_nil_iff.2 before, List.map_nil]

/-- Members that are accepted are taken, and leave the places of the others empty. -/
theorem exists_takesAll {front : List (String × List Char)} (values : ∀ x ∈ front, IsValue x.2)
    (accepted : ∀ m : Member, valuesOf m front = [] ∨ ∃ w, valuesOf m front = [w] ∧ m.Accepts w l) :
    ∃ d, record.TakesAll record.blank front d ∧
      ∀ m : Member, valuesOf m front = [] → m.place d = none := by
  have blank (m : Member) : m.place record.blank = none := by cases m <;> rfl
  obtain ⟨d, places⟩ := Member.exists_place fun m =>
    if valuesOf m front = [] then none else some (m.field l)
  refine ⟨d, (takesAll_iff values).2 fun m => ?_, fun m none => by rw [places, if_pos none]⟩
  rw [places, blank]
  rcases accepted m with none | ⟨w, one, accepts⟩
  · exact .inl ⟨none, if_pos none⟩
  · exact .inr ⟨w, m.field l, one, accepts, rfl, if_neg (by rw [one]; exact List.cons_ne_nil w [])⟩

/-! ### The interval -/

theorem accepts_interval (string : SpellsText v text) (read : Found.span (.text text) = .ok d) :
    Member.sweepInterval.Accepts v { l with sweepInterval := d } := by
  have reads := judges_readSpan.reads string.reads_readFound read
  have alone : readSpan v = .ok (d, []) := by simpa using reads [] [] isBlanks_nil isEnd_nil
  exact alone

theorem refuses_interval (string : SpellsText v text) (read : Found.span (.text text) = .error e)
    (d : Draft) : Refuses (Member.sweepInterval.slot.fill d) v e :=
  (judges_readSpan.refuses string.reads_readFound read).ofReader

/-- What a text of limits is read as, from what the text of the interval is read as. -/
theorem GivesInterval.readJson_eq (gives : GivesInterval json text l) :
    readJson json = (Found.span (.text text)).map fun d => { l with sweepInterval := d } := by
  cases gives with
  | object spells one string others =>
    cases read : Found.span (.text text) with
    | ok d =>
      refine (readJson_object_iff spells).2 fun m => ?_
      by_cases interval : m = .sweepInterval
      · subst interval
        exact ⟨_, one, accepts_interval string read⟩
      · obtain ⟨w, given, accepts⟩ := others m interval
        exact ⟨w, given, accepts.of_ne interval d⟩
    | error e =>
      -- Members behind the interval are not read, and those before it have been accepted.
      obtain ⟨front, back, rfl, before⟩ := exists_split one
      have values := spells.isValue
      obtain ⟨d, takes, places⟩ := exists_takesAll (l := l)
        (fun x mem => values x (List.mem_append_left _ mem)) fun m => by
          by_cases interval : m = .sweepInterval
          · exact .inl (interval ▸ before)
          · obtain ⟨w, given, accepts⟩ := others m interval
            rw [valuesOf_append, List.append_eq_singleton_iff] at given
            rcases given with ⟨none, -⟩ | ⟨one, -⟩
            · exact .inl none
            · exact .inr ⟨w, one, accepts⟩
      refine Record.read_eq_error_of_member spells takes (find?_slots .sweepInterval) ?_
        (refuses_interval string read d)
      simp [Member.slot, Slot.ofReader, places _ before]
  | @array vs v spells string others =>
    rcases others with _ | ⟨ipRate, _ | ⟨ipBurst, _ | ⟨globalRate, _ | ⟨globalBurst, ⟨⟩⟩⟩⟩⟩
    cases read : Found.span (.text text) with
    | ok d =>
      refine (readJson_array_iff spells).2 ?_
      exact .cons (ipRate.of_ne (by decide) d) <| .cons (ipBurst.of_ne (by decide) d) <|
        .cons (globalRate.of_ne (by decide) d) <| .cons (globalBurst.of_ne (by decide) d) <|
        .cons (accepts_interval string read) .nil
    | error e =>
      obtain ⟨d, places⟩ := Member.exists_place fun m =>
        if m = .sweepInterval then none else some (m.field l)
      have filled {m : Member} {w : List Char} (accepts : m.Accepts w l)
          (ne : m ≠ .sweepInterval) : ∃ a, m.read w = .ok (a, []) ∧ m.place d = some a :=
        ⟨m.field l, accepts, by rw [places, if_neg ne]⟩
      have empty : ∀ m : Member, m ∉ [.ipRate, .ipBurst, .globalRate, .globalBurst] →
          m.place d = m.place record.blank := by
        intro m out
        cases m with
        | sweepInterval => exact places .sweepInterval
        | ipRate | ipBurst | globalRate | globalBurst => exact absurd (by decide) out
      have fills := (fills_iff (by decide) fun w mem =>
        spells.isValue w (List.mem_append_left _ mem)).2
          ⟨.cons (filled ipRate (by decide)) <| .cons (filled ipBurst (by decide)) <|
            .cons (filled globalRate (by decide)) <| .cons (filled globalBurst (by decide)) .nil,
          empty⟩
      exact Record.read_eq_error_of_item spells rfl fills (refuses_interval string read d)

/-- Any text as the interval of the standard limits, written as an object. -/
theorem givesInterval_render (text : String) :
    GivesInterval (Json.object [("ip_rate", .natural 10), ("ip_burst", .natural 20),
      ("global_rate", .natural 100), ("global_burst", .natural 200),
      ("sweep_interval", .text text)]).render text Limits.standard := by
  refine .object (v := (Json.text text).write) (spellsObject_render fun m mem => ?_) rfl
    (spellsText_writeText text) fun m ne => ?_
  · simp only [List.mem_cons, List.not_mem_nil, or_false] at mem
    rcases mem with rfl | rfl | rfl | rfl | rfl
    all_goals first | exact isValue_text _ | exact isValue_natural _
  · cases m with
    | sweepInterval => exact absurd rfl ne
    | ipRate =>
      refine ⟨_, rfl, ?_⟩
      show readBinary64 _ = .ok (Limits.standard.ipRate, [])
      decide +kernel
    | ipBurst =>
      refine ⟨_, rfl, ?_⟩
      show readUInt32 _ = .ok (Limits.standard.ipBurst, [])
      decide +kernel
    | globalRate =>
      refine ⟨_, rfl, ?_⟩
      show readBinary64 _ = .ok (Limits.standard.globalRate, [])
      decide +kernel
    | globalBurst =>
      refine ⟨_, rfl, ?_⟩
      show readUInt32 _ = .ok (Limits.standard.globalBurst, [])
      decide +kernel

end Floodgate.Limits
