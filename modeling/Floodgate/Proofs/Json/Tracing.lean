import Floodgate.Json.Record
import Floodgate.Proofs.Json.Judging

/-!
# Where reading a text can stop

What a reader leaves of a text is an end of it, so that whatever is read stands in the text. No part
of a text that is read for its shape alone can stop the program: when reading a record does, one of
its slots has done so, on an end of the text.

## Main definitions

* `Json.Traced` — what reading a text comes to: an end of it is left, and the program is stopped
  only by what is at one of its ends

## Main results

* `Json.Judges.traced` — a reader that judges stops the program only by judging
* `Json.Record.exists_of_read_eq_crash` — a record stops the program only by one of its slots
* `Json.exists_spellsText_of_readFound` — a text that is found is spelled there
-/

namespace Floodgate.Json

/-- The fault stops the program instead of being told. -/
def Fault.isCrash : Fault → Bool
  | crashed _ => true
  | _ => false

/-- Reading `cs` leaves an end of it, which is found in the result, or there is a fault; and the
program is stopped only by what `stops` says of an end of `cs`. -/
structure Traced {α : Type} (stops : List Char → String → Prop) (left : α → List Char)
    (cs : List Char) (x : Except Fault α) : Prop where
  suffix : ∀ a, x = .ok a → left a <:+ cs
  crash : ∀ m, x = .error (.crashed m) → ∃ cs', cs' <:+ cs ∧ stops cs' m

variable {stops : List Char → String → Prop} {cs cs' rest : List Char}

namespace Traced

variable {α β : Type} {left : α → List Char} {left' : β → List Char} {x : Except Fault α}

theorem ok {a : α} (suffix : left a <:+ cs) : Traced stops left cs (.ok a) where
  suffix a' same := by
    obtain rfl := Except.ok.inj same
    exact suffix
  crash m crashed := by cases crashed

theorem error {e : Fault} (told : e.isCrash = false) : Traced stops left cs (.error e) where
  suffix a read := by cases read
  crash m same := by
    obtain rfl := Except.error.inj same
    cases told

theorem of_suffix (traced : Traced stops left cs' x) (suffix : cs' <:+ cs) :
    Traced stops left cs x where
  suffix a read := (traced.suffix a read).trans suffix
  crash m crashed := by
    obtain ⟨cs'', suffix', stopped⟩ := traced.crash m crashed
    exact ⟨cs'', suffix'.trans suffix, stopped⟩

/-- What is read next is read off what is left. -/
theorem bind {f : α → Except Fault β} (first : Traced stops left cs x)
    (next : ∀ a, Traced stops left' (left a) (f a)) : Traced stops left' cs (x >>= f) := by
  cases x with
  | error e =>
    refine ⟨by rintro b ⟨⟩, fun m crashed => first.crash m ?_⟩
    exact congrArg _ (Except.error.inj crashed)
  | ok a => exact (next a).of_suffix (first.suffix a rfl)

theorem map {f : α → β} (traced : Traced stops left cs x) (same : ∀ a, left' (f a) = left a) :
    Traced stops left' cs (x.map f) := by
  cases x with
  | error e =>
    refine ⟨by rintro b ⟨⟩, fun m crashed => traced.crash m ?_⟩
    exact congrArg _ (Except.error.inj crashed)
  | ok a => exact .ok (same a ▸ traced.suffix a rfl)

end Traced

/-! ### Marks, words and strings -/

theorem skipBlanks_suffix (cs : List Char) : skipBlanks cs <:+ cs := List.dropWhile_suffix _

theorem suffix_of_skipBlanks_eq {c : Char} (skipped : skipBlanks cs = c :: rest) : rest <:+ cs :=
  (List.suffix_cons c rest).trans (skipped ▸ skipBlanks_suffix cs)

theorem traced_skipMark (mark : Char) (cs : List Char) :
    Traced stops id cs (skipMark mark cs) := by
  unfold skipMark
  split
  · exact .error rfl
  · next skipped =>
    split_ifs
    · exact .ok (suffix_of_skipBlanks_eq skipped)
    · exact .error rfl

theorem traced_skipWord (w cs : List Char) : Traced stops id cs (skipWord w cs) := by
  induction w generalizing cs with
  | nil => exact .ok List.suffix_rfl
  | cons w ws ih =>
    cases cs with
    | nil => exact .error rfl
    | cons c cs =>
      unfold skipWord
      split_ifs
      · exact (ih cs).of_suffix (List.suffix_cons c cs)
      · exact .error rfl

theorem traced_readUnit (cs : List Char) : Traced stops Prod.snd cs (readUnit cs) := by
  unfold readUnit
  split_ifs
  · exact .error rfl
  · split
    · exact .ok (List.drop_suffix 4 cs)
    · exact .error rfl

theorem traced_readEscape (cs : List Char) : Traced stops Prod.snd cs (readEscape cs) := by
  cases cs with
  | nil => exact .error rfl
  | cons c cs =>
    refine Traced.of_suffix ?_ (List.suffix_cons c cs)
    unfold readEscape
    dsimp only
    split_ifs
    · refine (traced_readUnit cs).bind ?_
      rintro ⟨unit, cs⟩
      dsimp only
      split_ifs
      · exact .error rfl
      · refine (traced_skipWord _ cs).bind fun cs => ?_
        refine (traced_readUnit cs).bind ?_
        rintro ⟨trailing, cs⟩
        dsimp only
        split_ifs
        · exact .ok List.suffix_rfl
        · exact .error rfl
      · exact .ok List.suffix_rfl
    · split
      · exact .ok List.suffix_rfl
      · exact .error rfl

theorem traced_readContent (fuel : ℕ) (cs : List Char) :
    Traced stops Prod.snd cs (readContent fuel cs) := by
  induction fuel generalizing cs with
  | zero => exact .error rfl
  | succ fuel ih =>
    cases cs with
    | nil => exact .error rfl
    | cons c cs =>
      refine Traced.of_suffix ?_ (List.suffix_cons c cs)
      unfold readContent
      dsimp only
      split_ifs
      · exact .ok List.suffix_rfl
      · refine (traced_readEscape cs).bind ?_
        rintro ⟨c, cs⟩
        exact (ih cs).bind fun _ => .ok List.suffix_rfl
      · exact .error rfl
      · exact (ih cs).bind fun _ => .ok List.suffix_rfl

theorem traced_readText (cs : List Char) : Traced stops Prod.snd cs (readText cs) :=
  (traced_readContent cs.length cs).bind fun _ => .ok List.suffix_rfl

theorem traced_skipEscape (cs : List Char) : Traced stops id cs (skipEscape cs) := by
  cases cs with
  | nil => exact .error rfl
  | cons c cs =>
    refine Traced.of_suffix ?_ (List.suffix_cons c cs)
    unfold skipEscape
    dsimp only
    split_ifs
    · exact (traced_readUnit cs).map fun _ => rfl
    · exact .ok List.suffix_rfl
    · exact .error rfl

theorem traced_skipContent (fuel : ℕ) (cs : List Char) :
    Traced stops id cs (skipContent fuel cs) := by
  induction fuel generalizing cs with
  | zero => exact .error rfl
  | succ fuel ih =>
    cases cs with
    | nil => exact .error rfl
    | cons c cs =>
      refine Traced.of_suffix ?_ (List.suffix_cons c cs)
      unfold skipContent
      dsimp only
      split_ifs
      · exact .ok List.suffix_rfl
      · exact (traced_skipEscape cs).bind ih
      · exact .error rfl
      · exact ih cs

/-! ### Numbers -/

theorem traced_readDigits (cs : List Char) : Traced stops Prod.snd cs (readDigits cs) := by
  unfold readDigits
  split
  · exact .error rfl
  · exact .error rfl
  · exact .ok (List.dropWhile_suffix _)

theorem traced_readWhole (cs : List Char) :
    Traced stops Prod.snd cs (Numeral.readWhole cs) := by
  refine (traced_readDigits cs).bind ?_
  rintro ⟨ds, rest⟩
  dsimp only
  split_ifs
  · exact .error rfl
  · exact .ok List.suffix_rfl

theorem traced_readFraction (cs : List Char) :
    Traced stops Prod.snd cs (Numeral.readFraction cs) := by
  unfold Numeral.readFraction
  split
  · exact (traced_readDigits _).of_suffix (List.suffix_cons _ _)
  · exact .ok List.suffix_rfl

theorem traced_readExponent (cs : List Char) :
    Traced stops Prod.snd cs (Numeral.readExponent cs) := by
  unfold Numeral.readExponent
  split
  · exact .ok List.suffix_rfl
  next mark rest =>
  split_ifs
  · split
    next down cs' signed =>
    -- A sign, if there is one, is left out first.
    have suffix : cs' <:+ rest := by
      split at signed
      · obtain ⟨-, rfl⟩ := Prod.mk.inj signed
        exact List.suffix_cons _ _
      · obtain ⟨-, rfl⟩ := Prod.mk.inj signed
        exact List.suffix_cons _ _
      · obtain ⟨-, rfl⟩ := Prod.mk.inj signed
        exact List.suffix_rfl
    have digits := (@traced_readDigits stops cs').of_suffix suffix
    exact (digits.of_suffix (List.suffix_cons mark rest)).bind fun _ => .ok List.suffix_rfl
  · exact .ok List.suffix_rfl

theorem traced_read (cs : List Char) : Traced stops Prod.snd cs (Numeral.read cs) := by
  unfold Numeral.read
  split
  next negative cs' signed =>
  have suffix : cs' <:+ cs := by
    split at signed
    · obtain ⟨-, rfl⟩ := Prod.mk.inj signed
      exact List.suffix_cons _ _
    · obtain ⟨-, rfl⟩ := Prod.mk.inj signed
      exact List.suffix_rfl
  refine ((traced_readWhole cs').of_suffix suffix).bind ?_
  rintro ⟨whole, cs'⟩
  refine (traced_readFraction cs').bind ?_
  rintro ⟨fraction, cs'⟩
  exact (traced_readExponent cs').bind fun _ => .ok List.suffix_rfl

theorem traced_readNumber (cs : List Char) : Traced stops Prod.snd cs (readNumber cs) := by
  refine (traced_read cs).bind ?_
  rintro ⟨m, rest⟩
  dsimp only
  split
  · exact .ok List.suffix_rfl
  · exact .error rfl

theorem traced_skipNumber (cs : List Char) : Traced stops id cs (skipNumber cs) := by
  unfold skipNumber
  split
  · next read => exact .ok ((@traced_read stops cs).suffix _ read)
  · exact .error rfl

/-! ### Values -/

theorem traced_readFound (cs : List Char) : Traced stops Prod.snd cs (readFound cs) := by
  unfold readFound
  split
  · exact .error rfl
  · next c rest skipped =>
    have whole : c :: rest <:+ cs := skipped ▸ skipBlanks_suffix cs
    have behind := suffix_of_skipBlanks_eq skipped
    split_ifs
    · exact ((traced_readText rest).of_suffix behind).bind fun _ => .ok List.suffix_rfl
    · exact .ok behind
    · exact .ok behind
    · exact ((traced_skipWord _ rest).of_suffix behind).bind fun _ => .ok List.suffix_rfl
    · exact ((traced_skipWord _ rest).of_suffix behind).bind fun _ => .ok List.suffix_rfl
    · exact ((traced_skipWord _ rest).of_suffix behind).bind fun _ => .ok List.suffix_rfl
    · exact ((traced_readNumber _).of_suffix whole).bind fun _ => .ok List.suffix_rfl
    · exact .error rfl

/-- A value, and the items and members from one of them on, are skipped alike. -/
theorem traced_skip (fuel : ℕ) :
    (∀ cs, Traced stops id cs (skipWithin fuel cs)) ∧
      (∀ cs, Traced stops id cs (skipItems fuel cs)) ∧
        ∀ cs, Traced stops id cs (skipMembers fuel cs) := by
  induction fuel with
  | zero =>
    refine ⟨fun cs => ?_, fun cs => ?_, fun cs => ?_⟩
    · unfold skipWithin
      exact .error rfl
    · unfold skipItems
      exact .error rfl
    · unfold skipMembers
      exact .error rfl
  | succ fuel ih =>
    obtain ⟨value, items, members⟩ := ih
    refine ⟨fun cs => ?_, fun cs => ?_, fun cs => ?_⟩
    · unfold skipWithin
      split
      · exact .error rfl
      next c rest skipped =>
      have whole : c :: rest <:+ cs := skipped ▸ skipBlanks_suffix cs
      refine Traced.of_suffix ?_ whole
      have behind := List.suffix_cons c rest
      split_ifs
      · exact (traced_skipContent _ rest).of_suffix behind
      · refine Traced.of_suffix ?_ behind
        split
        · next closed => exact .ok (suffix_of_skipBlanks_eq closed)
        · exact (items _).of_suffix (skipBlanks_suffix rest)
      · refine Traced.of_suffix ?_ behind
        split
        · next closed => exact .ok (suffix_of_skipBlanks_eq closed)
        · exact (members _).of_suffix (skipBlanks_suffix rest)
      · exact (traced_skipWord _ rest).of_suffix behind
      · exact (traced_skipWord _ rest).of_suffix behind
      · exact (traced_skipWord _ rest).of_suffix behind
      · exact traced_skipNumber _
      · exact .error rfl
    · unfold skipItems
      refine (value cs).bind fun cs => ?_
      split
      · exact .error rfl
      · next more => exact (items _).of_suffix (suffix_of_skipBlanks_eq more)
      · next closed => exact .ok (suffix_of_skipBlanks_eq closed)
      · exact .error rfl
    · unfold skipMembers
      refine (traced_skipMark _ cs).bind fun cs => ?_
      refine (traced_skipContent _ cs).bind fun cs => ?_
      refine (traced_skipMark _ cs).bind fun cs => ?_
      refine (value cs).bind fun cs => ?_
      split
      · exact .error rfl
      · next more => exact (members _).of_suffix (suffix_of_skipBlanks_eq more)
      · next closed => exact .ok (suffix_of_skipBlanks_eq closed)
      · exact .error rfl

theorem traced_skipValue (cs : List Char) : Traced stops id cs (skipValue cs) :=
  (traced_skip _).1 cs

/-- Only the judging of what is found stops the program. -/
theorem Judges.traced {α : Type} {reader : Reader α} {judge : Found → Except Fault α}
    (judges : Judges reader judge)
    (stopped : ∀ cs x rest m, readFound cs = .ok (x, rest) → judge x = .error (.crashed m) →
      stops cs m) (cs : List Char) : Traced stops Prod.snd cs (reader cs) := by
  rw [judges.reader_eq]
  cases found : readFound cs with
  | error e =>
    refine ⟨by rintro a ⟨⟩, fun m crashed => ?_⟩
    obtain rfl : e = .crashed m := Except.error.inj crashed
    exact (@traced_readFound stops cs).crash m found
  | ok p =>
    have suffix := (@traced_readFound stops cs).suffix p found
    cases judged : judge p.1 with
    | error e =>
      refine ⟨fun _ read => ?_, fun m crashed => ?_⟩
      · simp [Except.bind, judged, Except.map] at read
      · simp only [Except.bind, judged, Except.map, Except.error.injEq] at crashed
        exact ⟨cs, List.suffix_rfl, stopped cs p.1 p.2 m found (crashed ▸ judged)⟩
    | ok a =>
      simp only [Except.bind, judged, Except.map]
      exact .ok suffix

/-- A text that is found is spelled there. -/
theorem exists_spellsText_of_readFound {s : String} (found : readFound cs = .ok (.text s, rest)) :
    ∃ v, SpellsText v s ∧ v <:+: cs := by
  unfold readFound at found
  cases skipped : skipBlanks cs with
  | nil => simp [skipped] at found
  | cons c tail =>
    simp only [skipped] at found
    split_ifs at found with quote
    · simp only [readText, bind_eq_ok_iff, Except.ok.injEq] at found
      obtain ⟨_, ⟨⟨t, behind⟩, read, rfl⟩, found⟩ := found
      obtain rfl : String.ofList t = s := Found.text.inj (Prod.mk.inj found).1
      obtain ⟨content, spells, rfl⟩ := spellsContent_of_readContent read
      refine ⟨'"' :: content ++ ['"'], ⟨content, by simpa using spells, rfl⟩, ?_⟩
      have whole : c :: (content ++ '"' :: behind) <:+ cs := skipped ▸ skipBlanks_suffix cs
      exact List.IsInfix.trans ⟨[], behind, by simp [quote]⟩ whole.isInfix
    all_goals simp [bind_eq_ok_iff] at found

/-! ### Records -/

namespace Record

variable {δ α : Type} {r : Record δ α}

/-- Every slot of the record is traced. -/
def IsTraced (r : Record δ α) (stops : List Char → String → Prop) : Prop :=
  ∀ slot ∈ r.slots, ∀ d cs, Traced stops Prod.snd cs (slot.fill d cs)

theorem IsTraced.readMember (traced : r.IsTraced stops) (name : String) (d : δ)
    (cs : List Char) : Traced stops Prod.snd cs (r.readMember name d cs) := by
  unfold Record.readMember
  split
  · next slot found =>
    split_ifs
    · exact .error rfl
    · exact (traced_skipMark _ cs).bind fun cs =>
        traced slot (List.mem_of_find?_eq_some found) d cs
  · refine (traced_skipMark _ cs).bind fun cs => ?_
    exact (traced_skipValue cs).bind fun _ => .ok List.suffix_rfl

theorem IsTraced.readMembers (traced : r.IsTraced stops) (fuel : ℕ) (d : δ) (cs : List Char) :
    Traced stops Prod.snd cs (r.readMembers fuel d cs) := by
  induction fuel generalizing d cs with
  | zero => exact .error rfl
  | succ fuel ih =>
    unfold Record.readMembers
    refine (traced_skipMark _ cs).bind fun cs => ?_
    refine (traced_readText cs).bind ?_
    rintro ⟨name, cs⟩
    refine (traced.readMember name d cs).bind ?_
    rintro ⟨d, cs⟩
    dsimp only
    split
    · exact .error rfl
    · next more => exact (ih d _).of_suffix (suffix_of_skipBlanks_eq more)
    · next closed => exact .ok (suffix_of_skipBlanks_eq closed)
    · exact .error rfl

theorem IsTraced.readItems (traced : r.IsTraced stops) {slots : List (Slot δ)}
    (sub : slots ⊆ r.slots) (d : δ) (cs : List Char) :
    Traced stops Prod.snd cs (r.readItems slots d cs) := by
  induction slots generalizing d cs with
  | nil =>
    unfold Record.readItems
    split
    · exact .error rfl
    · next closed => exact .ok (suffix_of_skipBlanks_eq closed)
    · exact .error rfl
  | cons slot slots ih =>
    obtain ⟨mem, sub⟩ := List.cons_subset.1 sub
    -- The item is read by its slot, and those behind it by the slots that are left.
    have item (cs : List Char) : Traced stops Prod.snd cs
        (slot.fill d cs >>= fun p => r.readItems slots p.1 p.2) :=
      (traced slot mem d cs).bind fun p => ih sub p.1 p.2
    unfold Record.readItems
    dsimp only
    split
    · exact .error rfl
    · exact .error rfl
    · next c rest _ skipped =>
      have whole : c :: rest <:+ cs := skipped ▸ skipBlanks_suffix cs
      split_ifs
      · exact (item _).of_suffix whole
      · split
        · exact .error rfl
        · exact (item _).of_suffix
            ((skipBlanks_suffix rest).trans (suffix_of_skipBlanks_eq skipped))
      · exact .error rfl

theorem traced_finished (d : δ) (rest : List Char) :
    Traced stops (fun _ => rest) rest (r.finished d) := by
  unfold finished
  split
  · exact .ok List.suffix_rfl
  · exact .error rfl

theorem IsTraced.readValue (traced : r.IsTraced stops) (cs : List Char) :
    Traced stops Prod.snd cs (r.readValue cs) := by
  have finish (p : δ × List Char) : Traced stops Prod.snd p.2
      (r.finished p.1 >>= fun a => .ok (a, p.2)) :=
    (traced_finished p.1 p.2).bind fun _ => .ok List.suffix_rfl
  unfold Record.readValue
  refine (traced_readFound cs).bind ?_
  rintro ⟨v, cs⟩
  dsimp only
  split
  · split
    · next closed => exact (finish (r.blank, _)).of_suffix (suffix_of_skipBlanks_eq closed)
    · exact ((traced.readMembers _ _ _).bind finish).of_suffix (skipBlanks_suffix cs)
  · exact (traced.readItems (List.Subset.refl _) _ cs).bind finish
  · exact .error rfl

/-- When reading a record stops the program, one of its slots has, on an end of the text. -/
theorem IsTraced.exists_of_read_eq_crash (traced : r.IsTraced stops) {text m : String}
    (crashed : r.read text = .error (.crashed m)) : ∃ cs, cs <:+ text.toList ∧ stops cs m := by
  rw [Record.read, bind_eq_error_iff] at crashed
  rcases crashed with stopped | ⟨⟨a, rest⟩, -, behind⟩
  · exact (traced.readValue _).crash m stopped
  · dsimp only at behind
    split_ifs at behind
    cases behind

end Record

end Floodgate.Json
