import Floodgate.Http.ClientKey
import Floodgate.Proofs.Net.Canonical

/-!
# One key for one address

What decides the key of a request is the first forwarding hop, else the real address, else the
peer, where a field counts only if its text spells an address between blanks. The key is the
canonical text of the address that decides: requests share a key if the same address decides
them, however it is spelled, and a key put into the forwarding field stays as it is.

## Main definitions

* `Http.Denotes` — a text spells an address between blanks
* `Http.Request.HopDenotes`, `Http.Request.RealDenotes` — a header field names an address
* `Http.Request.DecidedBy` — the address that a request is taken to come from

## Main results

* `Http.addressOf_eq_some_iff`, `Http.Request.source_eq_iff` — what is read is what is denoted
* `Http.Request.clientKey_canonical` — keys are canonical
-/

namespace Floodgate.Http

/-! ### Texts of fields -/

/-- A text spells an address between blanks. -/
def Denotes (text : List Char) (a : Address) : Prop :=
  ∃ left word right, AllBlank left ∧ AllBlank right ∧ text = left ++ (word ++ right) ∧
    Address.Spells word a

/-- The characters of a spelling are no blanks and no commas, and a field may hold them. -/
theorem of_mem_spellingChars {c : Char} (mem : c ∈ Address.spellingChars) :
    isBlank c = false ∧ c ≠ ',' ∧ isReadableChar c = true := by
  have all : Address.spellingChars.all
      (fun c => !isBlank c && c != ',' && isReadableChar c) = true := by decide
  simpa [and_assoc] using List.all_eq_true.1 all c mem

theorem addressOf_eq_some_iff {text : List Char} {a : Address} :
    addressOf text = some a ↔ Denotes text a := by
  constructor
  · intro address
    obtain ⟨left, right, blank_left, blank_right, text_eq⟩ := exists_trimBlanks text
    exact ⟨left, trimBlanks text, right, blank_left, blank_right, text_eq,
      Address.read_eq_some_iff.1 address⟩
  · rintro ⟨left, word, right, blank_left, blank_right, rfl, spells⟩
    have solid : ∀ c ∈ word, isBlank c = false := fun c mem =>
      (of_mem_spellingChars (spells.mem_spellingChars mem)).1
    rw [addressOf, trimBlanks_append blank_left blank_right solid spells.ne_nil]
    exact Address.read_of_spells spells

theorem denotes_of_spells {word : List Char} {a : Address} (spells : Address.Spells word a) :
    Denotes word a :=
  ⟨[], word, [], by simp [AllBlank], by simp [AllBlank], by simp, spells⟩

theorem Fields.readable?_eq_some_iff {fields : Fields} {name value : String} :
    fields.readable? name = some value ↔
      fields.first? name = some value ∧ ∀ c ∈ value.toList, isReadableChar c = true := by
  simp only [Fields.readable?, Option.bind_eq_some_iff, Http.readable?, List.all_eq_true]
  constructor
  · rintro ⟨v, first, readable⟩
    split_ifs at readable with all
    obtain rfl := Option.some.inj readable
    exact ⟨first, all⟩
  · rintro ⟨first, all⟩
    exact ⟨value, first, if_pos all⟩

namespace Request

variable {r : Request} {a : Address}

/-! ### What decides -/

/-- The first hop of the forwarding field denotes an address. -/
def HopDenotes (r : Request) (a : Address) : Prop :=
  ∃ value hop hops, r.fields.first? "x-forwarded-for" = some value ∧
    (∀ c ∈ value.toList, isReadableChar c = true) ∧
    ',' ∉ hop ∧ value.toList = [','].intercalate (hop :: hops) ∧ Denotes hop a

/-- The field of the real address denotes an address. -/
def RealDenotes (r : Request) (a : Address) : Prop :=
  ∃ value, r.fields.first? "x-real-ip" = some value ∧
    (∀ c ∈ value.toList, isReadableChar c = true) ∧ Denotes value.toList a

/-- The address that decides the key of a request, if there is one. A field that does not denote
an address is passed over. -/
inductive DecidedBy (r : Request) : Option Address → Prop
  | hop {a : Address} (hop : r.HopDenotes a) : DecidedBy r (some a)
  | real {a : Address} (no_hop : ∀ b, ¬ r.HopDenotes b) (real : r.RealDenotes a) :
      DecidedBy r (some a)
  | peer {s : Socket} (no_hop : ∀ b, ¬ r.HopDenotes b) (no_real : ∀ b, ¬ r.RealDenotes b)
      (peer : r.peer = some s) : DecidedBy r (some s.address)
  | nobody (no_hop : ∀ b, ¬ r.HopDenotes b) (no_real : ∀ b, ¬ r.RealDenotes b)
      (no_peer : r.peer = none) : DecidedBy r none

theorem forwarded_eq_some_iff : r.forwarded = some a ↔ r.HopDenotes a := by
  simp only [forwarded, Option.bind_eq_some_iff, Fields.readable?_eq_some_iff,
    addressOf_eq_some_iff]
  constructor
  · rintro ⟨value, ⟨first, readable⟩, denotes⟩
    obtain ⟨no_comma, hops, value_eq⟩ := takeWhile_ne_eq_iff.1 (Eq.refl
      (value.toList.takeWhile (· ≠ ',')))
    exact ⟨value, _, hops, first, readable, no_comma, value_eq, denotes⟩
  · rintro ⟨value, hop, hops, first, readable, no_comma, value_eq, denotes⟩
    refine ⟨value, ⟨first, readable⟩, ?_⟩
    rwa [takeWhile_ne_eq_iff.2 ⟨no_comma, hops, value_eq⟩]

theorem realAddress_eq_some_iff : r.realAddress = some a ↔ r.RealDenotes a := by
  simp only [realAddress, Option.bind_eq_some_iff, Fields.readable?_eq_some_iff,
    addressOf_eq_some_iff, RealDenotes, and_assoc]

theorem forwarded_eq_none_iff : r.forwarded = none ↔ ∀ b, ¬ r.HopDenotes b := by
  simp only [Option.eq_none_iff_forall_ne_some, ← forwarded_eq_some_iff, ne_eq]

theorem realAddress_eq_none_iff : r.realAddress = none ↔ ∀ b, ¬ r.RealDenotes b := by
  simp only [Option.eq_none_iff_forall_ne_some, ← realAddress_eq_some_iff, ne_eq]

theorem decidedBy_source (r : Request) : r.DecidedBy r.source := by
  unfold source
  cases hop : r.forwarded with
  | some a => exact .hop (forwarded_eq_some_iff.1 hop)
  | none =>
    have no_hop := forwarded_eq_none_iff.1 hop
    cases real : r.realAddress with
    | some a => exact .real no_hop (realAddress_eq_some_iff.1 real)
    | none =>
      have no_real := realAddress_eq_none_iff.1 real
      cases peer : r.peer with
      | some s => exact .peer no_hop no_real peer
      | none => exact .nobody no_hop no_real peer

theorem DecidedBy.source_eq {s : Option Address} (decided : r.DecidedBy s) : r.source = s := by
  unfold source
  cases decided with
  | hop hop => rw [forwarded_eq_some_iff.2 hop, Option.some_or]
  | real no_hop real =>
    rw [forwarded_eq_none_iff.2 no_hop, realAddress_eq_some_iff.2 real, Option.none_or,
      Option.some_or]
  | peer no_hop no_real peer =>
    rw [forwarded_eq_none_iff.2 no_hop, realAddress_eq_none_iff.2 no_real, peer]
    rfl
  | nobody no_hop no_real no_peer =>
    rw [forwarded_eq_none_iff.2 no_hop, realAddress_eq_none_iff.2 no_real, no_peer]
    rfl

theorem source_eq_iff {s : Option Address} : r.source = s ↔ r.DecidedBy s :=
  ⟨fun source_eq => source_eq ▸ r.decidedBy_source, DecidedBy.source_eq⟩

/-! ### The key -/

theorem DecidedBy.clientKey_eq (decided : r.DecidedBy (some a)) : r.clientKey = a.text := by
  rw [clientKey, decided.source_eq]

theorem DecidedBy.clientKey_unknown (undecided : r.DecidedBy none) : r.clientKey = "unknown" := by
  rw [clientKey, undecided.source_eq]

/-- No address has the text that stands for nobody. -/
theorem text_ne_unknown (a : Address) : a.text ≠ "unknown" := by
  intro text_eq
  have read_eq := Address.read_write a
  rw [← Address.toList_text, text_eq] at read_eq
  have unread : Address.read "unknown".toList = none := by decide +kernel
  rw [unread] at read_eq
  cases read_eq

/-- A canonical text in the forwarding field decides by itself. -/
theorem hopDenotes_of_first?_eq_text (first : r.fields.first? "x-forwarded-for" = some a.text) :
    r.HopDenotes a := by
  have spells : Address.Spells a.text.toList a := by
    rw [Address.toList_text]
    exact Address.spells_write a
  have chars := fun c mem => of_mem_spellingChars (spells.mem_spellingChars (c := c) mem)
  exact ⟨a.text, a.text.toList, [], first, fun c mem => (chars c mem).2.2,
    fun mem => (chars _ mem).2.1 rfl, List.intercalate_singleton.symm, denotes_of_spells spells⟩

/-- A request has the key "unknown" if no address decides it. Otherwise its key is a text that is
read as an address and written for it, and it keeps this text if it comes in the forwarding field.
Of two requests that addresses decide, the keys are the same if the addresses are. -/
theorem clientKey_canonical (r : Request) :
    (r.DecidedBy none ∧ r.clientKey = "unknown" ∨
      ∃ a, r.DecidedBy (some a) ∧ r.clientKey ≠ "unknown" ∧
        Address.read r.clientKey.toList = some a ∧ a.text = r.clientKey ∧
        ∀ r' : Request, r'.fields.first? "x-forwarded-for" = some r.clientKey →
          r'.clientKey = r.clientKey) ∧
      ∀ (r' : Request) (a a' : Address), r.DecidedBy (some a) → r'.DecidedBy (some a') →
        (r.clientKey = r'.clientKey ↔ a = a') := by
  constructor
  · have decided := r.decidedBy_source
    cases source_eq : r.source with
    | none =>
      rw [source_eq] at decided
      exact .inl ⟨decided, decided.clientKey_unknown⟩
    | some a =>
      rw [source_eq] at decided
      rw [decided.clientKey_eq, Address.toList_text]
      refine .inr ⟨a, decided, text_ne_unknown a, Address.read_write a, rfl, ?_⟩
      intro r' first
      exact (DecidedBy.hop (hopDenotes_of_first?_eq_text first)).clientKey_eq
  · intro r' a a' decided decided'
    rw [decided.clientKey_eq, decided'.clientKey_eq]
    exact Address.text_injective.eq_iff

/-- A request with one header field, from a peer. -/
def single (name value : String) (peer : Option Socket) : Request :=
  ⟨"GET", ⟨"/", ""⟩, [⟨name, value⟩], peer⟩

/-- A mapped address in capitals and with zeros in front, the key it has, the same address as a
peer, and the four octets that are mapped, which are another address. -/
theorem mapped_client_keys :
    let mapped := Address.v6 [0, 0, 0, 0, 0, 0xffff, 0x102, 0x304] rfl
    let sloppy := single "x-forwarded-for" "\t0:0::FFFF:0102:304 , 10.0.0.1" none
    let neat := single "x-forwarded-for" "::ffff:1.2.3.4" none
    let direct := single "x-real-ip" "nonsense" (some (.v6 [0, 0, 0, 0, 0, 0xffff, 0x102, 0x304]
      rfl 1 8080))
    let plain := single "x-real-ip" "1.2.3.4" none
    sloppy.DecidedBy (some mapped) ∧ direct.DecidedBy (some mapped) ∧
      plain.DecidedBy (some (.v4 ⟨1, 2, 3, 4⟩)) ∧
      neat.fields.first? "x-forwarded-for" = some sloppy.clientKey ∧
      neat.clientKey = sloppy.clientKey ∧ sloppy.clientKey = direct.clientKey ∧
      sloppy.clientKey ≠ plain.clientKey := by
  intro mapped sloppy neat direct plain
  have decided : sloppy.DecidedBy (some mapped) := source_eq_iff.1 (by decide +kernel)
  have directly : direct.DecidedBy (some mapped) := source_eq_iff.1 (by decide +kernel)
  have plainly : plain.DecidedBy (some (.v4 ⟨1, 2, 3, 4⟩)) := source_eq_iff.1 (by decide +kernel)
  have apart : mapped ≠ .v4 ⟨1, 2, 3, 4⟩ := nofun
  have known : sloppy.clientKey ≠ "unknown" := by decide +kernel
  have first : neat.fields.first? "x-forwarded-for" = some sloppy.clientKey := by decide +kernel
  obtain ⟨⟨-, unknown⟩ | ⟨_, -, -, -, -, stays⟩, shared⟩ := clientKey_canonical sloppy
  · exact absurd unknown known
  · exact ⟨decided, directly, plainly, first, stays neat first,
      (shared direct mapped mapped decided directly).2 rfl,
      fun same => apart ((shared plain mapped _ decided plainly).1 same)⟩

end Request

end Floodgate.Http
