import Floodgate.Proofs.Http.ClientKey

/-!
# What decides a key, and what never matters

The key of a request is decided by the text in front of the first comma of the first forwarding
value, by the first value of the real address, or by the peer's address, in this order, where a
text counts if it is readable and denotes an address. All else has no part in it: what follows
the comma, further values of the two fields, the sources behind the one that decides, the peer's
port, other header fields, the method and the target. Of a request's body the edge reads nothing
before the key is known, and a request is its head alone here.

## Main definitions

* `Http.Fields.FirstIs` — the first of the header fields of a name has a value
* `Http.Request.FirstHop`, `Http.Request.FirstReal` — the texts that are looked at

## Main results

* `Http.Request.clientKey_congr` — requests that agree in what is looked at have the same key
* `Http.Request.clientKey_decided` — the order of the sources
-/

namespace Floodgate.Http

/-! ### First fields -/

namespace Fields

variable {fields fields' : Fields} {name value : String}

/-- The first of the header fields of a name has this value; fields of other names may stand
before it, and any fields behind it. -/
def FirstIs (fields : Fields) (name value : String) : Prop :=
  ∃ before after, fields = before ++ ⟨name, value⟩ :: after ∧
    ∀ field ∈ before, field.name ≠ name

theorem first?_eq_some_iff : fields.first? name = some value ↔ fields.FirstIs name value := by
  rw [first?, Option.map_eq_some_iff]
  constructor
  · rintro ⟨field, found, rfl⟩
    obtain ⟨named, before, after, fields_eq, others⟩ := List.find?_eq_some_iff_append.1 found
    obtain rfl : field.name = name := by simpa using named
    exact ⟨before, after, fields_eq, fun field mem => by simpa using others field mem⟩
  · rintro ⟨before, after, fields_eq, others⟩
    refine ⟨⟨name, value⟩, List.find?_eq_some_iff_append.2 ?_, rfl⟩
    exact ⟨by simp, before, after, fields_eq, fun field mem => by simpa using others field mem⟩

theorem first?_congr
    (same : ∀ value, fields'.FirstIs name value ↔ fields.FirstIs name value) :
    fields'.first? name = fields.first? name := by
  ext value
  rw [first?_eq_some_iff, first?_eq_some_iff, same]

end Fields

namespace Request

variable {r r' : Request} {a : Address}

/-! ### The texts that are looked at -/

/-- The first forwarding value is readable and has this text before its first comma, or no comma
and this text. -/
def FirstHop (r : Request) (hop : List Char) : Prop :=
  ∃ value, r.fields.FirstIs "x-forwarded-for" value ∧
    (∀ c ∈ value.toList, isReadableChar c = true) ∧
    ',' ∉ hop ∧ (value.toList = hop ∨ ∃ behind, value.toList = hop ++ ',' :: behind)

/-- The first value of the real address is readable and has this text. -/
def FirstReal (r : Request) (text : List Char) : Prop :=
  ∃ value, r.fields.FirstIs "x-real-ip" value ∧
    (∀ c ∈ value.toList, isReadableChar c = true) ∧ value.toList = text

/-- A hop with others behind it, or alone. -/
theorem exists_intercalate_iff {cs hop : List Char} :
    (∃ hops, cs = [','].intercalate (hop :: hops)) ↔
      cs = hop ∨ ∃ behind, cs = hop ++ ',' :: behind := by
  constructor
  · rintro ⟨hops, rfl⟩
    cases hops with
    | nil => exact .inl List.intercalate_singleton
    | cons next hops =>
      exact .inr ⟨[','].intercalate (next :: hops), by simp⟩
  · rintro (rfl | ⟨behind, rfl⟩)
    · exact ⟨[], List.intercalate_singleton.symm⟩
    · exact ⟨[behind], by simp⟩

theorem hopDenotes_iff : r.HopDenotes a ↔ ∃ hop, r.FirstHop hop ∧ Denotes hop a := by
  simp only [HopDenotes, FirstHop, Fields.first?_eq_some_iff, ← exists_intercalate_iff]
  constructor
  · rintro ⟨value, hop, hops, first, readable, no_comma, value_eq, denotes⟩
    exact ⟨hop, ⟨value, first, readable, no_comma, hops, value_eq⟩, denotes⟩
  · rintro ⟨hop, ⟨value, first, readable, no_comma, hops, value_eq⟩, denotes⟩
    exact ⟨value, hop, hops, first, readable, no_comma, value_eq, denotes⟩

theorem realDenotes_iff : r.RealDenotes a ↔ ∃ text, r.FirstReal text ∧ Denotes text a := by
  simp only [RealDenotes, FirstReal, Fields.first?_eq_some_iff]
  constructor
  · rintro ⟨value, first, readable, denotes⟩
    exact ⟨value.toList, ⟨value, first, readable, rfl⟩, denotes⟩
  · rintro ⟨text, ⟨value, first, readable, rfl⟩, denotes⟩
    exact ⟨value, first, readable, denotes⟩

/-! ### The key -/

/-- The key is the same if the first values of the two fields and the peer's address are. -/
theorem clientKey_congr
    (forwarding : r'.fields.first? "x-forwarded-for" = r.fields.first? "x-forwarded-for")
    (real : r'.fields.first? "x-real-ip" = r.fields.first? "x-real-ip")
    (peer : r'.peer.map Socket.address = r.peer.map Socket.address) :
    r'.clientKey = r.clientKey := by
  have hop : r'.forwarded = r.forwarded := by
    rw [forwarded, forwarded, Fields.readable?, Fields.readable?, forwarding]
  have told : r'.realAddress = r.realAddress := by
    rw [realAddress, realAddress, Fields.readable?, Fields.readable?, real]
  rw [clientKey, clientKey, source, source, hop, told, peer]

/-- The first forwarding hop decides the key if it denotes an address, then the first real address,
then the peer. Requests in which these are the same have the same key, whatever else they hold. -/
theorem clientKey_decided (r : Request) :
    (∀ hop a, r.FirstHop hop → Denotes hop a → r.clientKey = a.text) ∧
    ((∀ hop a, r.FirstHop hop → ¬ Denotes hop a) →
      (∀ text a, r.FirstReal text → Denotes text a → r.clientKey = a.text) ∧
      ((∀ text a, r.FirstReal text → ¬ Denotes text a) →
        (∀ s, r.peer = some s → r.clientKey = s.address.text) ∧
        (r.peer = none → r.clientKey = "unknown"))) ∧
    ∀ r' : Request,
      (∀ name ∈ ["x-forwarded-for", "x-real-ip"],
        ∀ value, r'.fields.FirstIs name value ↔ r.fields.FirstIs name value) →
      r'.peer.map Socket.address = r.peer.map Socket.address → r'.clientKey = r.clientKey := by
  refine ⟨?_, ?_, ?_⟩
  · intro hop a first denotes
    exact (DecidedBy.hop (hopDenotes_iff.2 ⟨hop, first, denotes⟩)).clientKey_eq
  · intro hopless
    have no_hop : ∀ b, ¬ r.HopDenotes b := by
      intro b hop_denotes
      obtain ⟨hop, first, denotes⟩ := hopDenotes_iff.1 hop_denotes
      exact hopless hop b first denotes
    refine ⟨?_, ?_⟩
    · intro text a first denotes
      exact (DecidedBy.real no_hop (realDenotes_iff.2 ⟨text, first, denotes⟩)).clientKey_eq
    · intro unreal
      have no_real : ∀ b, ¬ r.RealDenotes b := by
        intro b real_denotes
        obtain ⟨text, first, denotes⟩ := realDenotes_iff.1 real_denotes
        exact unreal text b first denotes
      refine ⟨?_, ?_⟩
      · intro s peer
        exact (DecidedBy.peer no_hop no_real peer).clientKey_eq
      · intro no_peer
        exact (DecidedBy.nobody no_hop no_real no_peer).clientKey_unknown
  · intro r' same peer
    exact clientKey_congr (Fields.first?_congr (same _ (by simp)))
      (Fields.first?_congr (same _ (by simp))) peer

/-- A proxy's word counts only where the first hop denotes no address, and neither a later hop nor
a further value is listened to. The peer has the last word, whatever its port and the method. -/
theorem hearsay_keys :
    let hearsay : Fields := [⟨"user-agent", "7.7.7.7"⟩, ⟨"x-forwarded-for", "nobody, 1.2.3.4"⟩,
      ⟨"x-forwarded-for", "5.6.7.8"⟩]
    let told : Fields := [⟨"x-real-ip", "\t2001:DB8:0::1 "⟩, ⟨"x-real-ip", "9.9.9.9"⟩]
    let near : Request := ⟨"GET", ⟨"/", ""⟩, hearsay, some (.v4 ⟨198, 51, 100, 7⟩ 40000)⟩
    let far : Request := ⟨"PUT", ⟨"/ready", "x"⟩, hearsay.tail, some (.v4 ⟨198, 51, 100, 7⟩ 1)⟩
    let proxied : Request := ⟨"GET", ⟨"/", ""⟩, hearsay ++ told, near.peer⟩
    let hopped : Request :=
      ⟨"GET", ⟨"/", ""⟩, ⟨"x-forwarded-for", " 10.0.0.1,nobody"⟩ :: proxied.fields, near.peer⟩
    near.clientKey = "198.51.100.7" ∧ far.clientKey = near.clientKey ∧
      proxied.clientKey = "2001:db8::1" ∧ hopped.clientKey = "10.0.0.1" := by
  intro hearsay told near far proxied hopped
  have hopless {r : Request} (no_hop : r.forwarded = none) :
      ∀ hop a, r.FirstHop hop → ¬ Denotes hop a := fun hop a first denotes =>
    forwarded_eq_none_iff.1 no_hop a (hopDenotes_iff.2 ⟨hop, first, denotes⟩)
  refine ⟨?_, ?_, ?_, ?_⟩
  · obtain ⟨-, decided, -⟩ := clientKey_decided near
    obtain ⟨-, from_peer⟩ := decided (hopless (by decide +kernel))
    obtain ⟨from_peer, -⟩ := from_peer fun text a first denotes =>
      realAddress_eq_none_iff.1 (by decide +kernel) a (realDenotes_iff.2 ⟨text, first, denotes⟩)
    rw [from_peer _ rfl]
    decide +kernel
  · obtain ⟨-, -, same⟩ := clientKey_decided near
    refine same far ?_ rfl
    intro name mem value
    have first : far.fields.first? name = near.fields.first? name := by
      revert name
      decide +kernel
    rw [← Fields.first?_eq_some_iff, ← Fields.first?_eq_some_iff, first]
  · obtain ⟨-, decided, -⟩ := clientKey_decided proxied
    obtain ⟨from_proxy, -⟩ := decided (hopless (by decide +kernel))
    have first : proxied.FirstReal "\t2001:DB8:0::1 ".toList :=
      ⟨_, ⟨hearsay, [⟨"x-real-ip", "9.9.9.9"⟩], rfl, by decide⟩,
        List.all_eq_true.1 (by decide +kernel), rfl⟩
    have denotes : Denotes "\t2001:DB8:0::1 ".toList
        (.v6 [0x2001, 0xdb8, 0, 0, 0, 0, 0, 1] rfl) := addressOf_eq_some_iff.1 (by decide +kernel)
    rw [from_proxy _ _ first denotes]
    decide +kernel
  · obtain ⟨from_hop, -⟩ := clientKey_decided hopped
    have first : hopped.FirstHop " 10.0.0.1".toList :=
      ⟨" 10.0.0.1,nobody", ⟨[], proxied.fields, rfl, by simp⟩,
        List.all_eq_true.1 (by decide +kernel), by decide,
        .inr ⟨"nobody".toList, by decide +kernel⟩⟩
    have denotes : Denotes " 10.0.0.1".toList (.v4 ⟨10, 0, 0, 1⟩) :=
      addressOf_eq_some_iff.1 (by decide +kernel)
    rw [from_hop _ _ first denotes]
    decide +kernel

end Request

end Floodgate.Http
