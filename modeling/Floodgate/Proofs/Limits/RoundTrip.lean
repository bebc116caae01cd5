import Floodgate.Proofs.Bucket.Projection
import Floodgate.Proofs.Json.WrittenNumber
import Floodgate.Proofs.Limits.Naming
import Floodgate.Proofs.Time.SpanText

/-!
# Limits are read back

Limits that are written as JSON can be read again. Bursts and the sweep interval come back as they
were; a rate may come back as another number close by, since significand and power of ten are
rounded one after the other when it is read.

## Main definitions

* `Limits.ReadBack` — what a rate comes back as

## Main results

* `Limits.exists_readBack` — the text of a rate is read as such a number
* `Limits.readJson_render` — accepted limits are read back and accepted again
-/

namespace Floodgate

namespace Limits

open Binary64 Json

variable {l : Limits} {x y : Binary64}

/-- The rate `y` that the text of `x` is read as: a rate again, at most two steps away, and `x`
itself if the text shows a number below `2 ^ 53` in a power of ten from `10 ^ -22` to `10 ^ 22`. -/
structure ReadBack (x y : Binary64) : Prop where
  isRate : isRate y = true
  rank_le : y.rank ≤ x.rank + 2
  le_rank : x.rank ≤ y.rank + 2
  eq_of_short : ∀ m, SpellsNumeral (writeNumber x) m → m.significand < 2 ^ 53 →
    m.power.natAbs ≤ 22 → y = x

theorem rank_pos_of_isRate (positive : isRate x = true) : 0 < x.rank := by
  obtain ⟨eq_ofRank, -⟩ := eq_ofRank_of_isRate positive
  rw [isRate, Bool.and_eq_true, eq_ofRank, zero_eq_ofRank, lt_ofRank (by decide),
    decide_eq_true_eq] at positive
  exact positive.2

theorem isRate_ofRank {r : ℕ} (pos : 0 < r) (finite : r < 2047 * 2 ^ 52) :
    isRate (ofRank false r) = true := by
  rw [isRate, isFinite_ofRank finite, zero_eq_ofRank, lt_ofRank (by decide)]
  exact decide_eq_true pos

/-- The text of a rate is a value, and it is read as a rate close by. -/
theorem exists_readBack (positive : isRate x = true) :
    IsValue (writeNumber x) ∧ ∃ y, Reads readBinary64 (writeNumber x) y ∧ ReadBack x y := by
  obtain ⟨eq_ofRank, finite⟩ := eq_ofRank_of_isRate positive
  have pos := rank_pos_of_isRate positive
  rw [ofRank_of_lt finite] at eq_ofRank
  obtain ⟨m, r, spells, value, pos', finite', above, below, short⟩ :=
    exists_value_writeNumber pos finite
  rw [← eq_ofRank] at spells
  refine ⟨.number spells.isNumber, ofRank false r, ?_, isRate_ofRank pos' finite', ?_, ?_, ?_⟩
  · exact judges_readBinary64.reads (spells.reads_readFound spells.isNumber value) rfl
  · rw [rank_ofRank finite']
    exact above
  · rw [rank_ofRank finite']
    exact below
  · intro m' spells' digits power
    -- The text has only one reading, so it is the one that was found.
    obtain rfl := spells.unique spells'
    rw [short digits (Nat.lt_succ_of_le power), ofRank_of_lt finite]
    exact eq_ofRank.symm

theorem reads_burst (n : UInt32) : Reads readUInt32 (Json.natural n.toNat).write n := by
  have small := n.toNat_lt
  refine judges_readUInt32.reads (reads_readFound_digits (by omega)) ?_
  simp [Found.uint32, small]

theorem reads_interval (d : Span) : Reads readSpan (Json.text (String.ofList d.write)).write d := by
  refine judges_readSpan.reads (spellsText_writeText _).reads_readFound ?_
  simp [Found.span, Span.read_write]

/-- The member is accepted as soon as its text is read as what the limits have. -/
theorem Member.Accepts.of_reads {m : Member} {v : List Char} (value : IsValue v)
    (reads : Reads m.read v (m.field l)) : m.Accepts v l :=
  (m.definite_read.reads_iff value).1 reads

/-- Accepted limits are read back from their JSON and accepted again. Bursts and the interval are
the same, and each rate is one that its text may come back as. -/
theorem readJson_render (l : Limits) (accepted : l.validated = .ok l) :
    ∃ l', readJson l.json.render = .ok l' ∧ l'.validated = .ok l' ∧ l'.ipBurst = l.ipBurst ∧
      l'.globalBurst = l.globalBurst ∧ l'.sweepInterval = l.sweepInterval ∧
      ReadBack l.ipRate l'.ipRate ∧ ReadBack l.globalRate l'.globalRate := by
  obtain ⟨-, sound⟩ := validated_eq_ok_iff.1 accepted
  obtain ⟨ipValue, ipRate, ipReads, ipBack⟩ := exists_readBack sound.ipRate
  obtain ⟨globalValue, globalRate, globalReads, globalBack⟩ := exists_readBack sound.globalRate
  let l' : Limits := ⟨ipRate, l.ipBurst, globalRate, l.globalBurst, l.sweepInterval⟩
  have sound' : l'.Meaningful :=
    ⟨ipBack.isRate, sound.ipBurst, globalBack.isRate, sound.globalBurst, sound.sweepInterval⟩
  refine ⟨l', ?_, validated_eq_ok_iff.2 ⟨rfl, sound'⟩, rfl, rfl, rfl, ipBack, globalBack⟩
  -- Each member is written once, so that each one may be read by itself.
  have spells : SpellsObject l.json.render.toList _ := spellsObject_render fun member mem => by
    simp only [List.mem_cons, List.not_mem_nil, or_false] at mem
    rcases mem with rfl | rfl | rfl | rfl | rfl
    · exact ipValue
    · exact isValue_natural _
    · exact globalValue
    · exact isValue_natural _
    · exact isValue_text _
  refine (readJson_object_iff spells).2 fun m => ?_
  cases m with
  | ipRate => exact ⟨_, rfl, .of_reads ipValue ipReads⟩
  | ipBurst => exact ⟨_, rfl, .of_reads (isValue_natural _) (reads_burst _)⟩
  | globalRate => exact ⟨_, rfl, .of_reads globalValue globalReads⟩
  | globalBurst => exact ⟨_, rfl, .of_reads (isValue_natural _) (reads_burst _)⟩
  | sweepInterval => exact ⟨_, rfl, .of_reads (isValue_text _) (reads_interval _)⟩

theorem eq_of_field {l' : Limits} (ipRate : l.ipRate = l'.ipRate) (ipBurst : l.ipBurst = l'.ipBurst)
    (globalRate : l.globalRate = l'.globalRate) (globalBurst : l.globalBurst = l'.globalBurst)
    (sweepInterval : l.sweepInterval = l'.sweepInterval) : l = l' := by
  obtain ⟨_, _, _, _, _⟩ := l
  obtain ⟨_, _, _, _, _⟩ := l'
  rw [mk.injEq]
  exact ⟨ipRate, ipBurst, globalRate, globalBurst, sweepInterval⟩

/-- The standard rates have short texts, so the standard limits come back themselves. -/
theorem readJson_render_standard :
    standard.validated = .ok standard ∧ readJson standard.json.render = .ok standard := by
  have accepted : standard.validated = .ok standard := by decide +kernel
  obtain ⟨l, read, -, ipBurst, globalBurst, sweepInterval, ipBack, globalBack⟩ :=
    readJson_render standard accepted
  have ten : SpellsNumeral (writeNumber standard.ipRate) ⟨false, ['1', '0'], ['0'], none⟩ :=
    spellsNumeral_of_positive (by simp [IsDigits]) (by simp) (.present isDigits_zero) .absent
      (by decide +kernel)
  have hundred : SpellsNumeral (writeNumber standard.globalRate)
      ⟨false, ['1', '0', '0'], ['0'], none⟩ :=
    spellsNumeral_of_positive (by simp [IsDigits]) (by simp) (.present isDigits_zero) .absent
      (by decide +kernel)
  have ipRate := ipBack.eq_of_short _ ten (by decide) (by decide)
  have globalRate := globalBack.eq_of_short _ hundred (by decide) (by decide)
  rw [eq_of_field ipRate ipBurst globalRate globalBurst sweepInterval] at read
  exact ⟨accepted, read⟩

/-- A rate whose text has seventeen digits comes back two steps further up. -/
theorem readJson_render_moves :
    ∃ l l' : Limits, l = ⟨.ofBits 0x3e7d360c05da1480, 20, .ofNat 100, 200, .ofSeconds 600⟩ ∧
      l' = { l with ipRate := .ofBits 0x3e7d360c05da1482 } ∧ l.validated = .ok l ∧
      readJson l.json.render = .ok l' ∧ l' ≠ l := by
  refine ⟨_, _, rfl, rfl, ?_, ?_, ?_⟩ <;> decide +kernel

end Limits

end Floodgate
