import Floodgate.Proofs.Limiter.Eviction

/-!
# Histories

What is left of a run when only its calls and the sessions on its way are looked at. Requests are
decided, the clock is moved and idle buckets are dropped; there is nothing else. What is said of
all runs is proved along such a history, with a case for each of these.

## Main definitions

* `Session.Leads` — a session leads to another one, by given calls and allowed moves of the clock
* `Instant.Onward` — the clock does not go back

## Main results

* `Session.leads_run`, `Session.Forward.leads` — runs are histories
* `Session.Leads.instant_le` — the calls of a forward run lie between its ends
* `Session.Leads.tracked_cases` — whom a limiter tracks
-/

namespace Floodgate

namespace Limiter.Charged

variable {l l' : Limiter} {now : Instant} {client : String} {verdict : Verdict}

/-- A client whose request gets past the global tier has a bucket, refilled at that instant. -/
theorem exists_bucket (charged : l.Charged now client verdict l')
    (past : verdict.passedGlobal = true) :
    ∃ b, l'.clients.get? client = some b ∧ b.lastRefill = now := by
  have refilled := l.lastRefill_clientBucket now client
  cases charged with
  | globalRefused _ => exact absurd past Bool.false_ne_true
  | clientRefused _ _ =>
    refine ⟨l.clientBucket now client, ?_, refilled⟩
    rw [Clients.get?_set, if_pos rfl]
  | @admitted global b _ taken =>
    refine ⟨b, ?_, (Bucket.lastRefill_take taken).trans refilled⟩
    rw [Clients.get?_set, if_pos rfl]

end Limiter.Charged

/-- The clock does not go back. -/
def Instant.Onward (now later : Instant) : Prop := now.nanos.toNat ≤ later.nanos.toNat

namespace Session

/-- The calls that are made on the way from one session to another, where the clock is moved only
as it may be moved. -/
inductive Leads (may : Instant → Instant → Prop) : Session → List Call → Session → Prop
  | done (s : Session) : Leads may s [] s
  | request {s s' : Session} {client : String} {verdict : Verdict} {limiter : Limiter}
      {calls : List Call} (charged : s.limiter.Charged s.now client verdict limiter)
      (rest : Leads may { s with limiter } calls s') :
      Leads may s (⟨client, s.now, verdict, limiter.globalTokens⟩ :: calls) s'
  | move {s s' : Session} {later : Instant} {calls : List Call} (moved : may s.now later)
      (rest : Leads may { s with now := later } calls s') : Leads may s calls s'
  | sweep {s s' : Session} {calls : List Call}
      (rest : Leads may { s with limiter := (s.limiter.sweep s.now).2 } calls s') :
      Leads may s calls s'

/-- A session leads to where an operation and a history after it lead. -/
theorem Leads.step {may : Instant → Instant → Prop} {s s' : Session} {op : Operation}
    {calls : List Call} (rest : Leads may (s.step op).1 calls s')
    (moved : ∀ d, op = .advance d → may s.now (s.step op).1.now) :
    Leads may s ((s.call? op).toList ++ calls) s' := by
  cases op with
  | allow client =>
    obtain ⟨verdict, limiter, step, charged⟩ := s.exists_step_allow client
    rw [step] at rest
    rw [call?_allow step]
    exact .request charged rest
  | advance d =>
    have moved := moved d rfl
    rw [call?_eq_none (by simp)]
    obtain ⟨later, -, step⟩ := s.exists_step_advance d
    rw [step] at rest moved
    exact .move moved rest
  | sweep =>
    rw [call?_eq_none (by simp)]
    exact .sweep rest
  | stats =>
    rw [call?_eq_none (by simp)]
    exact rest
  | clone =>
    rw [call?_eq_none (by simp)]
    exact rest

/-- Every run is a history. -/
theorem leads_run (s : Session) (ops : List Operation) :
    s.Leads (fun _ _ => True) (s.calls ops) (s.run ops).1 := by
  induction ops generalizing s with
  | nil => exact .done s
  | cons op ops ih => exact (ih (s.step op).1).step fun _ _ => trivial

theorem Forward.leads {s : Session} {ops : List Operation} (forward : s.Forward ops) :
    s.Leads Instant.Onward (s.calls ops) (s.run ops).1 := by
  induction ops generalizing s with
  | nil => exact .done s
  | cons op ops ih =>
    obtain ⟨le, forward⟩ := forward
    exact (ih forward).step fun _ _ => le

namespace Leads

variable {may : Instant → Instant → Prop} {s s' : Session} {calls : List Call}

theorem sound (leads : s.Leads may calls s') (sound : s.limiter.Sound) : s'.limiter.Sound := by
  induction leads with
  | done => exact sound
  | request charged _ ih => exact ih (sound.charged charged)
  | move _ _ ih => exact ih sound
  | sweep _ ih => exact ih (sound.sweep _)

theorem now_le (leads : s.Leads Instant.Onward calls s') : s.now.Onward s'.now := by
  induction leads with
  | done => exact le_rfl
  | request _ _ ih => exact ih
  | move moved _ ih => exact le_trans moved ih
  | sweep _ ih => exact ih

/-- The calls of a forward history lie between its ends. -/
theorem instant_le (leads : s.Leads Instant.Onward calls s') :
    ∀ k ∈ calls, s.now.Onward k.instant ∧ k.instant.Onward s'.now := by
  induction leads with
  | done => exact fun _ mem => absurd mem List.not_mem_nil
  | request _ rest ih =>
    intro k mem
    obtain rfl | mem := List.mem_cons.1 mem
    · exact ⟨le_rfl, rest.now_le⟩
    · exact ih k mem
  | move moved _ ih => exact fun k mem => (ih k mem).imp_left (le_trans moved)
  | sweep _ ih => exact ih

/-- Whom a limiter tracks: one that it tracked before, with the bucket it had, or one whose request
got past the global tier at the instant of its bucket's last refill. -/
theorem tracked_cases (leads : s.Leads may calls s') {client : String} {b : Bucket}
    (tracked : s'.limiter.clients.get? client = some b) :
    s.limiter.clients.get? client = some b ∨
      ∃ k ∈ calls, k.client = client ∧ k.verdict.passedGlobal = true ∧
        k.instant = b.lastRefill := by
  -- The last request that touches the bucket counts, so the later part is looked at first.
  induction leads with
  | done => exact .inl tracked
  | @request s _ other verdict _ _ charged _ ih =>
    obtain before | ⟨k, mem, asked⟩ := ih tracked
    · by_cases own : other = client ∧ verdict.passedGlobal = true
      · -- The bucket is the one that this request left.
        obtain ⟨rfl, past⟩ := own
        obtain ⟨b', tracked', refilled⟩ := charged.exists_bucket past
        obtain rfl := Option.some.inj (tracked'.symm.trans before)
        exact .inr ⟨_, List.mem_cons_self, rfl, past, refilled.symm⟩
      · exact .inl ((charged.get?_of_not_past own).symm.trans before)
    · exact .inr ⟨k, List.mem_cons_of_mem _ mem, asked⟩
  | move _ _ ih => exact ih tracked
  | sweep _ ih =>
    refine (ih tracked).imp_left fun before => ?_
    rw [Limiter.get?_sweep] at before
    exact (Option.filter_eq_some_iff.1 before).1

end Leads

end Session

end Floodgate
