import Floodgate.Proofs.Limiter.Ceiling
import Floodgate.Proofs.Limiter.Tracking

/-!
# Reclamation of clients

While the clock does not go back, a sweep leaves only clients that have lately been heard of: that
had a request which got past the global tier within the retention time. A bucket that has rested
for longer is full again in spite of rounding, and idle. So few clients are tracked after a sweep,
however many names are made up, since the global tier does not let more requests pass in that time
than its burst and rate allow.

## Main definitions

* `Limits.retention` — how long a client may stay tracked
* `Call.isWithin` — calls of the last seconds

## Main results

* `Limiter.Sound.since_le_retention` — a bucket that is not idle has not rested for long
* `Session.Leads.passed_le` — what the global tier lets pass in a time
* `Session.Leads.passed_within_le` — what it has let pass in the last seconds
* `Session.sweep_reclaims` — whom a sweep leaves, and how many
-/

namespace Floodgate

open Bucket

/-- How long a client may stay tracked, in seconds: as long as the sweep interval, or the time in
which its bucket becomes full in spite of rounding. -/
def Limits.retention (limits : Limits) : ℚ :=
  max (limits.sweepInterval.toNanos / nanosPerSecond)
    ((1 + 1 / 2 ^ 50) * limits.ipBurst.toNat / limits.ipRate.toRat)

/-- The call was made no more than `window` seconds before `now`. -/
def Call.isWithin (now : Instant) (window : ℚ) (k : Call) : Bool :=
  decide (k.instant.nanos.toNat ≤ now.nanos.toNat ∧
    (now.since k.instant : ℚ) / nanosPerSecond ≤ window)

theorem Limits.retention_nonneg (limits : Limits) : 0 ≤ limits.retention :=
  le_max_of_le_left (div_nonneg (Nat.cast_nonneg _) (Nat.cast_nonneg _))

theorem Call.isWithin_iff {now : Instant} {window : ℚ} {k : Call} :
    k.isWithin now window = true ↔
      k.instant.Onward now ∧ (now.since k.instant : ℚ) / nanosPerSecond ≤ window :=
  decide_eq_true_iff

/-! ### Names -/

namespace Clients

variable {c : Clients} {name : String}

theorem exists_of_mem_names (mem : name ∈ c.names) : ∃ b, c.get? name = some b :=
  Option.isSome_iff_exists.1 (mem_names_iff.1 mem)

/-- There are no more clients than names that all of theirs are among. -/
theorem size_le_card {among : Finset String} (all : ∀ name ∈ c.names, name ∈ among) :
    c.size ≤ among.card := by
  rw [← card_names]
  exact Finset.card_le_card fun name mem => all name (List.mem_toFinset.1 mem)

end Clients

namespace Limiter

variable {l : Limiter} {now : Instant} {b : Bucket}

/-- A bucket that is not idle was refilled within the retention time. -/
theorem Sound.since_le_retention (sound : l.Sound)
    (serves : b.Serves l.limits.ipBurst l.limits.ipRate) (kept : l.isIdle now b = false) :
    (now.since b.lastRefill : ℚ) / nanosPerSecond ≤ l.limits.retention := by
  have rate_pos := Limits.toRat_pos_of_isRate sound.meaningful.ipRate
  rw [isIdle, Bool.and_eq_false_iff, decide_eq_false_iff_not, not_lt] at kept
  rw [Limits.retention, le_max_iff]
  refine kept.imp ?_ ?_
  · intro recent
    apply div_le_div_of_nonneg_right _ (Nat.cast_nonneg _)
    exact_mod_cast recent
  · intro lacking
    -- Otherwise the time since then would have filled the bucket.
    rw [le_div_iff₀ rate_pos, mul_comm]
    by_contra enough
    rw [serves.isFullAt_of_credit (not_le.1 enough).le] at lacking
    exact Bool.noConfusion lacking

end Limiter

namespace Session

namespace Leads

variable {s s' : Session} {calls : List Call}

/-- From one session to another the global tier lets no more requests pass than the level and the
time between allow, but for the slack of each request. -/
theorem passed_le (leads : s.Leads Instant.Onward calls s') (sound : s.limiter.Sound) :
    (calls.countP (·.verdict.passedGlobal) : ℚ) + s'.limiter.global.level s'.now ≤
      s.limiter.global.level s.now +
        s.limiter.limits.globalRate.toRat * ((s'.now.since s.now : ℕ) / nanosPerSecond) +
        calls.length * slack s.limiter.limits.globalBurst := by
  -- The level pays for each request, and rises with the time alone.
  induction leads with
  | done s => simp [Instant.since_self]
  | request charged _ ih =>
    have first := sound.global_pays charged
    have others := ih (sound.charged charged)
    rw [charged.limits_eq] at others
    rw [List.countP_cons, List.length_cons]
    push_cast
    linarith
  | @move s s' later _ onward rest ih =>
    have risen := sound.global.level_later_le s.now later
    have others := ih sound
    have time : (s'.now.since s.now : ℚ) =
        (later.since s.now : ℕ) + (s'.now.since later : ℕ) := by
      exact_mod_cast Instant.since_eq_add onward rest.now_le
    rw [time, add_div, mul_add]
    dsimp only at others
    linarith
  | sweep _ ih => exact ih (sound.sweep _)

/-- If a history begins within the last seconds, all of it is within them. -/
theorem passed_within_le_of_near (leads : s.Leads Instant.Onward calls s')
    (sound : s.limiter.Sound) {window : ℚ}
    (near : (s'.now.since s.now : ℚ) / nanosPerSecond ≤ window) :
    ((calls.filter (·.isWithin s'.now window)).countP (·.verdict.passedGlobal) : ℚ) ≤
      s.limiter.limits.globalBurst.toNat + s.limiter.limits.globalRate.toRat * window +
        (calls.filter (·.isWithin s'.now window)).length * slack s.limiter.limits.globalBurst := by
  have all : calls.filter (·.isWithin s'.now window) = calls := by
    rw [List.filter_eq_self]
    intro k mem
    obtain ⟨after, before⟩ := leads.instant_le k mem
    refine Call.isWithin_iff.2 ⟨before, le_trans ?_ near⟩
    apply div_le_div_of_nonneg_right _ (Nat.cast_nonneg _)
    exact_mod_cast Nat.sub_le_sub_left after _
  have passed := leads.passed_le sound
  have left := (leads.sound sound).global.level_nonneg s'.now
  have full := sound.global.level_le s.now
  have rate := (Limits.toRat_pos_of_isRate sound.meaningful.globalRate).le
  have time := mul_le_mul_of_nonneg_left near rate
  rw [all]
  linarith

/-- In the last seconds the global tier has let no more requests pass than burst and rate allow,
but for the slack of each request in that time. -/
theorem passed_within_le (leads : s.Leads Instant.Onward calls s') (sound : s.limiter.Sound)
    {window : ℚ} (nonneg : 0 ≤ window) :
    ((calls.filter (·.isWithin s'.now window)).countP (·.verdict.passedGlobal) : ℚ) ≤
      s.limiter.limits.globalBurst.toNat + s.limiter.limits.globalRate.toRat * window +
        (calls.filter (·.isWithin s'.now window)).length * slack s.limiter.limits.globalBurst := by
  -- The first request within the last seconds begins a history of its own.
  induction leads with
  | done s =>
    refine passed_within_le_of_near (.done s) sound ?_
    rw [Instant.since_self, Nat.cast_zero, zero_div]
    exact nonneg
  | @request s s' _ _ _ _ charged rest ih =>
    by_cases near : (s'.now.since s.now : ℚ) / nanosPerSecond ≤ window
    · exact passed_within_le_of_near (.request charged rest) sound near
    · have apart : ∀ k : Call, k.instant = s.now → ¬k.isWithin s'.now window = true := by
        intro k same within
        exact near (same ▸ (Call.isWithin_iff.1 within).2)
      rw [List.filter_cons_of_neg (apart _ rfl), ← charged.limits_eq]
      exact ih (sound.charged charged)
  | move _ _ ih => exact ih sound
  | sweep _ ih => exact ih (sound.sweep _)

/-- Where nobody was tracked to begin with, those that a sweep leaves had a request which got past
the global tier within the retention time. -/
theorem heard_of_swept (leads : s.Leads Instant.Onward calls s') (sound : s.limiter.Sound)
    (untracked : ∀ client, s.limiter.clients.get? client = none) {client : String} {b : Bucket}
    (left : (s'.limiter.sweep s'.now).2.clients.get? client = some b) :
    ∃ k ∈ calls.filter (·.isWithin s'.now s'.limiter.limits.retention),
      k.client = client ∧ k.verdict.passedGlobal = true := by
  rw [Limiter.get?_sweep, Option.filter_eq_some_iff] at left
  obtain ⟨tracked, kept⟩ := left
  -- The request that the bucket was last refilled for is the one to be found.
  obtain before | ⟨k, mem, own, past, refilled⟩ := leads.tracked_cases tracked
  · rw [untracked] at before
    exact absurd before.symm (Option.some_ne_none b)
  · have sound' := leads.sound sound
    have recent := sound'.since_le_retention (sound'.clients client b tracked) (by simpa using kept)
    rw [← refilled] at recent
    have within := Call.isWithin_iff.2 ⟨(leads.instant_le k mem).2, recent⟩
    exact ⟨k, List.mem_filter.2 ⟨mem, within⟩, own, past⟩

end Leads

/-- After any run whose clock never goes back, a sweep leaves only clients that had a request which
got past the global tier within the retention time, so nobody stays tracked without such requests.
There are no more of them than clients of such requests, and these are as few as the global burst
and rate allow for that time, whatever names are sent. -/
theorem sweep_reclaims {limits : Limits} {limiter : Limiter} {now : Instant}
    (made : Limiter.new limits now = .ok limiter) {ops : List Operation}
    (forward : Forward ⟨limiter, now⟩ ops) :
    let s := (run ⟨limiter, now⟩ ops).1
    let swept := (s.step .sweep).1.limiter
    let recent := (calls ⟨limiter, now⟩ ops).filter (·.isWithin s.now limits.retention)
    let heard := ((recent.filter (·.verdict.passedGlobal)).map Call.client).toFinset
    (∀ client b, swept.clients.get? client = some b →
      ∃ k ∈ recent, k.client = client ∧ k.verdict.passedGlobal = true) ∧
    swept.trackedClients ≤ heard.card ∧
    (heard.card : ℚ) ≤ limits.globalBurst.toNat + limits.globalRate.toRat * limits.retention +
      recent.length * (limits.globalBurst.toNat / 2 ^ 50) := by
  obtain ⟨meaningful, rfl⟩ := Limiter.new_eq_ok_iff.1 made
  have leads := forward.leads
  have sound := Limiter.sound_start meaningful now
  have passed := leads.passed_within_le sound limits.retention_nonneg
  have limits_eq := limits_run ⟨.start limits now, now⟩ ops
  intro s swept recent heard
  have heard_of : ∀ client b, swept.clients.get? client = some b →
      ∃ k ∈ recent, k.client = client ∧ k.verdict.passedGlobal = true := by
    intro client b left
    have found := leads.heard_of_swept sound (fun _ => rfl) left
    rwa [limits_eq] at found
  refine ⟨heard_of, ?_, ?_⟩
  · apply Clients.size_le_card
    intro client mem
    obtain ⟨b, left⟩ := Clients.exists_of_mem_names mem
    obtain ⟨k, mem, own, past⟩ := heard_of client b left
    exact List.mem_toFinset.2 (List.mem_map.2 ⟨k, List.mem_filter.2 ⟨mem, past⟩, own⟩)
  · refine le_trans ?_ passed
    have distinct := ((recent.filter (·.verdict.passedGlobal)).map Call.client).toFinset_card_le
    rw [List.length_map, ← List.countP_eq_length_filter] at distinct
    exact_mod_cast distinct

/-- Three clients are made, and a fourth is refused globally; when the others have been idle for
three seconds, one of them asks again. -/
def flood : List Operation :=
  [.allow "a", .allow "b", .allow "c", .allow "b", .allow "d", .advance (.ofSeconds 3), .allow "b"]

theorem reclaims_flood :
    let s := (run ⟨.start .modest .base, .base⟩ flood).1
    Forward ⟨.start .modest .base, .base⟩ flood ∧ s.limiter.trackedClients = 3 ∧
      (s.step .sweep).1.limiter.trackedClients = 1 ∧
      ∀ client b, (s.step .sweep).1.limiter.clients.get? client = some b → client = "b" := by
  have forward : Forward ⟨.start .modest .base, .base⟩ flood := by decide +kernel
  have recent : ((calls ⟨.start .modest .base, .base⟩ flood).filter (·.isWithin
      (run ⟨.start .modest .base, .base⟩ flood).1.now Limits.modest.retention)).map Call.client =
        ["b"] := by decide +kernel
  refine ⟨forward, by decide +kernel, by decide +kernel, ?_⟩
  intro client b left
  obtain ⟨k, mem, own, -⟩ := (sweep_reclaims (Limiter.new_modest .base) forward).1 client b left
  have named := List.mem_map_of_mem mem (f := Call.client)
  rw [recent, own] at named
  exact List.mem_singleton.1 named

end Session

end Floodgate
