import Floodgate.Proofs.Limiter.GlobalTier
import Floodgate.Proofs.Limiter.Isolation
import Mathlib.Data.Set.Card

/-!
# Whom a limiter tracks

A limiter tracks a client from a request on that gets past the global tier until a sweep drops the
client's bucket. What it holds can therefore be told from what was asked and swept: whom it tracks,
when each bucket was last refilled, and when the global one was. The clock may go anywhere.

## Main definitions

* `Limiter.tracks`, `Session.evicts` — a client has a bucket; a sweep takes it away
* `Session.stay` — the requests of a client past the global tier since it was last evicted
* `Session.Remembers` — a limiter as its history says it is
* `Session.Touches`, `Session.Sweeps` — what a request and a sweep change

## Main results

* `Session.Recalls.run` — a bucket was last refilled for the latest request of its client's stay
* `Session.run_remembers` — limiters are as their histories say, after any run
-/

namespace Floodgate

/-! ### Names -/

namespace Clients

variable {c : Clients} {name : String}

theorem mem_names_iff : name ∈ c.names ↔ (c.get? name).isSome = true := by
  rw [get?, names, ← Bool.not_eq_false, Option.isSome_eq_false_iff, Option.isNone_iff_eq_none]
  constructor
  · rintro mem missing
    obtain ⟨entry, found, rfl⟩ := List.mem_map.1 mem
    exact absurd (List.lookup_eq_none_iff.1 missing _ found) (by simp)
  · intro found
    by_contra missing
    exact found (lookup_eq_none_of_not_mem missing)

/-- There are as many clients as names. -/
theorem card_names (c : Clients) : c.names.toFinset.card = c.size := by
  rw [names, List.toFinset_card_of_nodup c.nodup, size, List.length_map]

/-- Clients are counted by the names that have a bucket. -/
theorem encard_eq_size (c : Clients) : {name | (c.get? name).isSome = true}.encard = c.size := by
  have names : {name | (c.get? name).isSome = true} = (c.names.toFinset : Set String) := by
    ext name
    rw [Finset.mem_coe, List.mem_toFinset, mem_names_iff, Set.mem_ofPred_eq]
  rw [names, Set.encard_coe_eq_coe_finsetCard, card_names]

/-- Those that do not pass a test are as many as there are clients less. -/
theorem encard_not_retained (c : Clients) (keep : Bucket → Bool) :
    {name | (c.get? name).isSome = true ∧ ((c.retain keep).get? name).isSome = false}.encard =
      (c.size - (c.retain keep).size : ℕ) := by
  have names : {name | (c.get? name).isSome = true ∧
      ((c.retain keep).get? name).isSome = false} =
        (c.names.toFinset \ (c.retain keep).names.toFinset : Finset String) := by
    ext name
    rw [Finset.mem_coe, Finset.mem_sdiff, List.mem_toFinset, List.mem_toFinset, mem_names_iff,
      mem_names_iff, Bool.not_eq_true, Set.mem_ofPred_eq]
  have kept : (c.retain keep).names.toFinset ⊆ c.names.toFinset := by
    intro name mem
    rw [List.mem_toFinset] at mem ⊢
    exact (List.filter_sublist.map Prod.fst).subset mem
  rw [names, Set.encard_coe_eq_coe_finsetCard, Finset.card_sdiff_of_subset kept, card_names,
    card_names]

end Clients

/-- The client has a bucket. -/
def Limiter.tracks (l : Limiter) (client : String) : Bool := (l.clients.get? client).isSome

namespace Session

/-- The operation is a sweep that drops the client's bucket. -/
def evicts (s : Session) (op : Operation) (client : String) : Bool :=
  decide (op = .sweep) && s.limiter.tracks client && !(s.step op).1.limiter.tracks client

/-- The instants of a client's requests past the global tier since the client was last evicted,
after one operation more; `past` are those before it. -/
def prolong (s : Session) (op : Operation) (client : String) (past : List Instant) : List Instant :=
  if s.evicts op client then []
  else past ++ (callsPast client (s.call? op).toList).map Call.instant

/-- The instants of a client's requests past the global tier since the client was last evicted,
after operations; `past` are those before them. -/
def stay (s : Session) (client : String) : List Operation → List Instant → List Instant
  | [], past => past
  | op :: ops, past => (s.step op).1.stay client ops (s.prolong op client past)

/-- A limiter as the operations since `start` say it is: it tracks the clients that have had a
request past the global tier since they were last evicted, each with a bucket that was refilled for
the latest of these requests, and the global bucket was refilled for the latest request of all. -/
structure Remembers (s start : Session) (ops : List Operation) : Prop where
  tracks_iff : ∀ client, s.limiter.tracks client = true ↔ start.stay client ops [] ≠ []
  lastRefill_eq : ∀ client b, s.limiter.clients.get? client = some b →
    (start.stay client ops []).getLast? = some b.lastRefill
  trackedClients_eq : {client | start.stay client ops [] ≠ []}.encard = s.limiter.trackedClients
  global_lastRefill :
    s.limiter.global.lastRefill = ((start.calls ops).map Call.instant).getLast?.getD start.now

/-- What a request changes of the clients' buckets: nothing when it is refused globally, and
otherwise only the bucket of its own client, which is there from then on. -/
structure Touches (s : Session) (client : String) : Prop where
  refused : (s.step (.allow client)).2 = .decided client (.refused .global) →
    ∀ other, (s.step (.allow client)).1.limiter.clients.get? other = s.limiter.clients.get? other
  past : (s.step (.allow client)).2 ≠ .decided client (.refused .global) →
    (s.step (.allow client)).1.limiter.tracks client = true
  others : ∀ other, other ≠ client →
    (s.step (.allow client)).1.limiter.clients.get? other = s.limiter.clients.get? other

/-- What a sweep changes: it drops the buckets that were last refilled longer than the sweep
interval ago and project to their capacity, says how many these are, and leaves all the others and
the global bucket as they were. -/
structure Sweeps (s : Session) : Prop where
  kept_iff : ∀ client b, (s.step .sweep).1.limiter.clients.get? client = some b ↔
    s.limiter.clients.get? client = some b ∧
      ¬(s.limiter.limits.sweepInterval.toNanos < s.now.since b.lastRefill ∧
        b.projected s.now = b.limit)
  evicted : ∃ n : ℕ, (s.step .sweep).2 = .swept n ∧
    {client | s.evicts .sweep client = true}.encard = n
  global_eq : (s.step .sweep).1.limiter.global = s.limiter.global

end Session

/-! ### Along a run -/

namespace Session

variable {s : Session} {client : String} {past : List Instant}

/-- Without a sweep nobody is evicted. -/
theorem prolong_of_ne_sweep {op : Operation} (other : op ≠ .sweep) :
    s.prolong op client past = past ++ (callsPast client (s.call? op).toList).map Call.instant := by
  have kept : s.evicts op client = false := by
    rw [evicts, decide_eq_false other, Bool.false_and, Bool.false_and]
  rw [prolong, kept, if_neg Bool.false_ne_true]

theorem prolong_of_call?_eq_none {op : Operation} (other : op ≠ .sweep)
    (noCall : s.call? op = none) : s.prolong op client past = past := by
  rw [prolong_of_ne_sweep other, noCall]
  exact List.append_nil past

theorem prolong_sweep :
    s.prolong .sweep client past = if s.evicts .sweep client then [] else past := by
  rw [prolong, call?_eq_none (by simp)]
  exact congrArg _ (List.append_nil past)

/-- A bucket was last refilled for the latest request of its client's stay, and is not there when
there was none. -/
def Recalls (s : Session) (client : String) (past : List Instant) : Prop :=
  (s.limiter.clients.get? client).map Bucket.lastRefill = past.getLast?

theorem Recalls.step (recalls : s.Recalls client past) (op : Operation) :
    (s.step op).1.Recalls client (s.prolong op client past) := by
  unfold Recalls at recalls ⊢
  cases op with
  | allow other =>
    obtain ⟨verdict, limiter, step, charged⟩ := s.exists_step_allow other
    rw [prolong_of_ne_sweep (by simp), call?_allow step, step]
    by_cases own : other = client ∧ verdict.passedGlobal = true
    · -- The request is the latest of the stay, and its bucket was refilled for it.
      obtain ⟨rfl, passed⟩ := own
      obtain ⟨b, tracked, refilled⟩ := charged.exists_bucket passed
      rw [tracked, Option.map_some, refilled]
      simp [callsPast, Call.isPast, passed]
    · have apart : callsPast client [⟨other, s.now, verdict, limiter.globalTokens⟩] = [] :=
        List.filter_cons_of_neg (by simpa [Call.isPast] using own)
      rw [charged.get?_of_not_past own, recalls, Option.toList_some, apart, List.map_nil,
        List.append_nil]
  | advance d =>
    obtain ⟨later, -, step⟩ := s.exists_step_advance d
    rw [prolong_of_call?_eq_none (by simp) (call?_eq_none (by simp)), step]
    exact recalls
  | sweep =>
    rw [prolong_sweep, evicts, step_sweep, Limiter.tracks, Limiter.tracks, Limiter.get?_sweep]
    cases tracked : s.limiter.clients.get? client with
    | none =>
      rw [tracked] at recalls
      exact recalls
    | some b =>
      rw [tracked] at recalls
      cases idle : s.limiter.isIdle s.now b with
      | false => simpa [Option.filter_some, idle] using recalls
      | true => simp [Option.filter_some, idle]
  | stats =>
    rw [prolong_of_call?_eq_none (by simp) rfl]
    exact recalls
  | clone =>
    rw [prolong_of_call?_eq_none (by simp) rfl]
    exact recalls

/-- Along a run a client's bucket was last refilled for the latest request of the client's stay. -/
theorem Recalls.run (recalls : s.Recalls client past) (ops : List Operation) :
    (s.run ops).1.Recalls client (s.stay client ops past) := by
  induction ops generalizing s past with
  | nil => exact recalls
  | cons op ops ih => exact ih (recalls.step op)

/-! ### One step -/

theorem touches (s : Session) (client : String) : s.Touches client := by
  obtain ⟨verdict, limiter, step, charged⟩ := s.exists_step_allow client
  refine ⟨?_, ?_, ?_⟩
  · intro refused other
    rw [step] at refused ⊢
    obtain rfl : verdict = .refused .global := by simpa using refused
    exact charged.get?_of_not_past (by simp [Verdict.passedGlobal])
  · intro past
    rw [step] at past ⊢
    have passed : verdict.passedGlobal = true := by
      rw [← Bool.not_eq_false, Verdict.passedGlobal_eq_false_iff]
      simpa using past
    obtain ⟨b, tracked, -⟩ := charged.exists_bucket passed
    rw [Limiter.tracks, tracked, Option.isSome_some]
  · intro other apart
    rw [step]
    exact charged.get?_of_not_past fun own => apart own.1.symm

theorem sweeps (sound : s.limiter.Sound) : s.Sweeps := by
  refine ⟨?_, ⟨_, rfl, ?_⟩, rfl⟩
  · intro client b
    rw [step_sweep, Limiter.get?_sweep, Option.filter_eq_some_iff]
    refine and_congr_right fun tracked => ?_
    have serves := sound.clients client b tracked
    rw [Bool.not_eq_true', ← Bool.not_eq_true, Limiter.isIdle, Bool.and_eq_true, decide_eq_true_eq,
      serves.isFullAt_iff_projected_eq]
  · have dropped := s.limiter.clients.encard_not_retained (fun b => !s.limiter.isIdle s.now b)
    simpa [evicts, step_sweep, Limiter.tracks, Limiter.sweep] using dropped

/-! ### Runs -/

theorem Recalls.tracks_iff (recalls : s.Recalls client past) :
    s.limiter.tracks client = true ↔ past ≠ [] := by
  rw [Limiter.tracks, ← Option.isSome_map (f := Bucket.lastRefill), recalls]
  exact List.getLast?_isSome

/-- After any run whoever is tracked, since when, and the global bucket are as the history says; a
request and a sweep change what they are to change and nothing else. -/
theorem run_remembers {limits : Limits} {limiter : Limiter} {now : Instant}
    (made : Limiter.new limits now = .ok limiter) (ops : List Operation) :
    let s := (run ⟨limiter, now⟩ ops).1
    s.Remembers ⟨limiter, now⟩ ops ∧ (∀ client, s.Touches client) ∧ s.Sweeps := by
  obtain ⟨meaningful, rfl⟩ := Limiter.new_eq_ok_iff.1 made
  have begun : ∀ client, Recalls ⟨.start limits now, now⟩ client [] := fun _ => rfl
  have recalls := fun client => (begun client).run ops
  have sound := sound_run (Limiter.sound_start meaningful now) (s := ⟨_, now⟩) ops
  refine ⟨⟨fun client => (recalls client).tracks_iff, ?_, ?_, ?_⟩, touches _, sweeps sound⟩
  · intro client b tracked
    rw [← recalls client, tracked]
    rfl
  · simp only [← (recalls _).tracks_iff]
    exact Clients.encard_eq_size _
  · exact (leads_run ⟨.start limits now, now⟩ ops).global_lastRefill

/-- Two clients spend the global burst and are swept; then they come back, the second one after the
clock went back, while a third one was never let past the global tier. -/
def comings : List Operation :=
  [.allow "a", .allow "b", .allow "a", .allow "a", .allow "c", .advance (.ofSeconds 3), .sweep,
    .allow "a", .advance .longest, .allow "b"]

theorem comings_remembered :
    let start : Session := ⟨.start .modest ⟨5⟩, ⟨5⟩⟩
    let s := (start.run comings).1
    Outcome.swept 2 ∈ (start.run comings).2 ∧ s.now = ⟨3000000004⟩ ∧
      start.stay "a" comings [] = [⟨3000000005⟩] ∧ start.stay "b" comings [] = [⟨3000000004⟩] ∧
      start.stay "c" comings [] = [] ∧
      s.limiter.tracks "b" = true ∧ s.limiter.tracks "c" = false ∧
      s.Remembers start comings ∧ (∀ client, s.Touches client) ∧ s.Sweeps := by
  intro start s
  have stay : start.stay "b" comings [] = [⟨3000000004⟩] := by decide +kernel
  have stay' : start.stay "c" comings [] = [] := by decide +kernel
  obtain ⟨remembers, steps⟩ := run_remembers (Limiter.new_modest ⟨5⟩) comings
  refine ⟨by decide +kernel, by decide +kernel, by decide +kernel, stay, stay', ?_, ?_, remembers,
    steps⟩
  · rw [remembers.tracks_iff, stay]
    exact List.cons_ne_nil _ _
  · rw [← Bool.not_eq_true, remembers.tracks_iff, stay', not_not]

end Session

end Floodgate
