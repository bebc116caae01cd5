import Floodgate.Proofs.CommandLine.Sources

/-!
# Texts that are complained of

A text that is refused as the value of an option has been given for that option: behind an equals
sign, in the argument behind the option's name, or by the option's variable. A scan goes from one
argument to the next and keeps, of an option that waits for its value, just where it stands.

## Main definitions

* `Gives` — arguments that give a text for an option
* `Seen` — what a scan has kept of the arguments that it has seen
* `Accounts` — a scan that goes on, or complains of a text that is given

## Main results

* `Seen.accounts_see` — one more argument
* `accounts_scan` — what is complained of while the arguments are scanned
* `parse_eq_badValue` — what is complained of at all
-/

namespace Floodgate.CommandLine

variable {arguments front : List String} {o : Opt} {text argument : String} {s s' : Scan}
  {e : ValueError} {given : List (Opt × String)} {env : Environment}

/-- The text is given for the option, behind an equals sign or as the next argument. -/
inductive Gives (arguments : List String) (o : Opt) (text : String) : Prop
  | joined (mem : "--" ++ o.name ++ "=" ++ text ∈ arguments)
  | spaced (within : ["--" ++ o.name, text] <:+: arguments)

theorem Gives.append (gives : Gives front o text) (arguments : List String) :
    Gives (front ++ arguments) o text := by
  cases gives with
  | joined mem => exact .joined (List.mem_append_left _ mem)
  | spaced within => exact .spaced (within.trans (List.infix_append' [] front arguments))

/-- The options that were taken have values, an option that waits for one is the latest argument,
and a value that is kept unread stands behind its option. -/
structure Seen (arguments : List String) (s : Scan) : Prop where
  checked : ∀ p ∈ s.given, p.1.check p.2 = .ok ()
  waits : ∀ o, s.pending = some (o, none) → s.ended = false →
    ∃ front, arguments = front ++ ["--" ++ o.name]
  keeps : ∀ o text, s.pending = some (o, some text) → Gives arguments o text

theorem Seen.append (seen : Seen front s) (settled : s.pending = none)
    (arguments : List String) : Seen (front ++ arguments) s :=
  ⟨seen.checked, by simp [settled], by simp [settled]⟩

/-- What comes of a scan of the arguments: it goes on, or a text is complained of that is given
for the option and is no value. -/
structure Accounts (arguments : List String) (x : Except Stop Scan) : Prop where
  goes_on : ∀ s, x = .ok s → Seen arguments s
  complains : ∀ o text e, x = .error (.badValue o text e) →
    o.check text = .error e ∧ Gives arguments o text

theorem Accounts.ok (seen : Seen arguments s) : Accounts arguments (.ok s) where
  goes_on s' same := by
    obtain rfl := Except.ok.inj same
    exact seen
  complains o text e other := by cases other

theorem Accounts.error {stop : Stop} (other : ∀ o text e, stop ≠ .badValue o text e) :
    Accounts arguments (.error stop) where
  goes_on s other := by cases other
  complains o text e same := absurd (Except.error.inj same) (other o text e)

/-- What has been given stays given when further arguments are seen. -/
theorem Accounts.bind (arguments : List String) {x : Except Stop Scan}
    {f : Scan → Except Stop Scan} (first : Accounts front x)
    (next : ∀ s, x = .ok s → Seen front s → Accounts (front ++ arguments) (f s)) :
    Accounts (front ++ arguments) (x >>= f) := by
  cases x with
  | error stop =>
    refine ⟨by rintro s ⟨⟩, fun o text e same => ?_⟩
    obtain ⟨checked, gives⟩ := first.complains o text e (congrArg _ (Except.error.inj same))
    exact ⟨checked, gives.append arguments⟩
  | ok s => exact next s rfl (first.goes_on s rfl)

/-! ### One argument -/

/-- An option is taken with a text that is given for it, unless the text is a value anyway. -/
theorem Seen.accounts_take (seen : Seen arguments s) (settled : s.pending = none)
    (gives : ∀ e, o.check text = .error e → Gives arguments o text) :
    Accounts arguments (s.take o text) := by
  unfold Scan.take
  split_ifs
  · exact .error (by simp)
  cases checked : o.check text with
  | ok _ =>
    refine .ok ⟨fun p mem => ?_, fun o waits => ?_, fun o text keeps => ?_⟩
    · rcases List.mem_append.1 mem with old | new
      · exact seen.checked p old
      · rw [List.mem_singleton.1 new, checked]
    · simp [settled] at waits
    · simp [settled] at keeps
  | error e =>
    refine ⟨by rintro s ⟨⟩, fun o' text' e' same => ?_⟩
    obtain ⟨rfl, rfl, rfl⟩ := Stop.badValue.inj (Except.error.inj same)
    exact ⟨checked, gives e checked⟩

theorem Seen.accounts_settle (seen : Seen arguments s) : Accounts arguments s.settle := by
  unfold Scan.settle
  split
  · exact .ok seen
  · exact .error (by simp)
  · next o text keeps =>
    have alone : Seen arguments { s with pending := none } := ⟨seen.checked, by simp, by simp⟩
    exact alone.accounts_take rfl fun _ _ => seen.keeps o text keeps

/-- A long argument, as its name and the value behind its equals sign, if there is one. -/
def longArgument (name : String) : Option String → String
  | none => "--" ++ name
  | some value => "--" ++ name ++ "=" ++ value

theorem Seen.accounts_long (seen : Seen front s) (name : String) (value : Option String) :
    Accounts (front ++ [longArgument name value]) (s.long name value) := by
  -- The latest option is settled before anything else is done.
  have settle {f : Scan → Except Stop Scan} (next : ∀ s', s'.pending = none → Seen front s' →
      Accounts (front ++ [longArgument name value]) (f s')) :
      Accounts (front ++ [longArgument name value]) (s.settle >>= f) :=
    seen.accounts_settle.bind _ fun s' settled => next s' (settle_keeps settled).1
  unfold Scan.long
  cases known : Opt.ofName? name with
  | some o =>
    obtain rfl := Opt.name_of_ofName? known
    dsimp only
    split_ifs with switch
    · cases value with
      | some text => exact .error (by simp)
      | none =>
        refine settle fun s' none seen' => (seen'.append none _).accounts_take none fun e bad => ?_
        have on : o.check "true" = .ok () := by cases o <;> first | rfl | cases switch
        cases on.symm.trans bad
    · cases value with
      | some text =>
        refine settle fun s' none seen' => (seen'.append none _).accounts_take none fun e bad => ?_
        exact .joined (by simp [longArgument])
      | none =>
        refine settle fun s' none seen' => .ok ⟨seen'.checked, fun o' waits _ => ?_, by simp⟩
        obtain rfl : o = o' := (Prod.mk.inj (Option.some.inj waits)).1
        exact ⟨front, rfl⟩
  | none =>
    dsimp only
    by_cases asked : name = "help" ∨ name = "version"
    · rw [if_pos asked]
      cases value with
      | some text => exact .error (by simp)
      | none =>
        refine settle fun s' none seen' => .error fun o text e => ?_
        split_ifs <;> simp
    · rw [if_neg asked]
      exact .error (by simp)

theorem Seen.accounts_short (seen : Seen front s) (letter : Char) (argument : String) :
    Accounts (front ++ [argument]) (s.short letter) := by
  unfold Scan.short
  by_cases asked : letter = 'h' ∨ letter = 'V'
  · rw [if_pos asked]
    refine seen.accounts_settle.bind _ fun s' _ _ => .error fun o text e => ?_
    split_ifs <;> simp
  · rw [if_neg asked]
    exact .error (by simp)

theorem Seen.accounts_plain (seen : Seen front s) (ended : s.ended = false) (argument : String) :
    Accounts (front ++ [argument]) (s.plain argument) := by
  unfold Scan.plain
  split
  · next o waits =>
    obtain ⟨before, rfl⟩ := seen.waits o waits ended
    refine .ok ⟨seen.checked, by simp, fun o' text keeps => ?_⟩
    obtain ⟨rfl, same⟩ := Prod.mk.inj (Option.some.inj keeps)
    obtain rfl : argument = text := Option.some.inj same
    exact .spaced ⟨before, [], by simp⟩
  · exact .error (by simp)

/-- A long argument is made of what stands before its first equals sign and behind it. -/
theorem eq_longArgument {cs : List Char} (dashes : argument.toList = '-' :: '-' :: cs) :
    (cs.dropWhile (· ≠ '=') = [] →
      argument = longArgument (String.ofList (cs.takeWhile (· ≠ '='))) none) ∧
    ∀ c value, cs.dropWhile (· ≠ '=') = c :: value →
      argument = longArgument (String.ofList (cs.takeWhile (· ≠ '=')))
        (some (String.ofList value)) := by
  have whole : cs.takeWhile (· ≠ '=') ++ cs.dropWhile (· ≠ '=') = cs :=
    List.takeWhile_append_dropWhile
  have mark := List.head?_dropWhile_not (· ≠ '=') cs
  generalize cs.takeWhile (· ≠ '=') = name at whole ⊢
  generalize cs.dropWhile (· ≠ '=') = behind at whole mark ⊢
  subst whole
  refine ⟨fun alone => ?_, fun c value joined => ?_⟩
  · subst alone
    apply String.toList_injective
    simp [longArgument, dashes]
  · subst joined
    obtain rfl : c = '=' := by simpa using mark
    apply String.toList_injective
    simp [longArgument, dashes]

/-- One more argument. -/
theorem Seen.accounts_see (seen : Seen front s) (argument : String) :
    Accounts (front ++ [argument]) (s.see argument) := by
  unfold Scan.see
  cases ended : s.ended with
  | true => exact .error (by simp)
  | false =>
    rw [if_neg Bool.false_ne_true]
    split
    · refine .ok ⟨seen.checked, by simp, fun o text keeps => (seen.keeps o text keeps).append _⟩
    · next cs _ dashes =>
      obtain ⟨alone, joined⟩ := eq_longArgument dashes
      dsimp only
      split
      · next nothing => exact alone nothing ▸ seen.accounts_long _ none
      · next c value behind => exact joined c value behind ▸ seen.accounts_long _ (some _)
    · exact seen.accounts_short _ _
    · exact seen.accounts_plain ended _

/-! ### All arguments -/

theorem Seen.accounts_foldlM (seen : Seen front s) (arguments : List String) :
    Accounts (front ++ arguments) (arguments.foldlM Scan.see s) := by
  induction arguments generalizing front s with
  | nil => exact .ok (by simpa using seen)
  | cons argument arguments ih =>
    rw [List.foldlM_cons, ← List.singleton_append, ← List.append_assoc]
    exact (seen.accounts_see argument).bind _ fun s' _ seen' => ih seen'

/-- Without any argument nothing has been kept yet, and the scan accounts for all of them. -/
theorem accounts_scan (arguments : List String) :
    Accounts arguments (arguments.foldlM Scan.see {} >>= Scan.settle) := by
  have start : Seen [] {} := ⟨by simp, by simp, by simp⟩
  have run := start.accounts_foldlM arguments
  rw [List.nil_append] at run
  have all := run.bind [] fun s _ seen => (List.append_nil arguments).symm ▸ seen.accounts_settle
  rwa [List.append_nil] at all

/-- The texts that are taken are values. -/
theorem check_of_scan (scanned : scan arguments = .ok given) :
    ∀ p ∈ given, p.1.check p.2 = .ok () := by
  rw [scan_eq, map_eq_ok_iff] at scanned
  obtain ⟨s, run, rfl⟩ := scanned
  exact ((accounts_scan arguments).goes_on s run).checked

/-! ### Settling -/

theorem valueOf_eq_badValue {α : Type} {o' : Opt} {text' : String}
    {read : String → Except ValueError α}
    (refused : valueOf o text read = .error (.badValue o' text' e)) :
    o' = o ∧ text' = text ∧ read text = .error e := by
  unfold valueOf at refused
  split at refused
  · cases refused
  · next bad =>
    split_ifs at refused
    · cases refused
    · obtain ⟨rfl, rfl, rfl⟩ := Stop.badValue.inj (Except.error.inj refused)
      exact ⟨rfl, rfl, bad⟩

/-- The text that is complained of is the one that counts. -/
theorem settle_eq_badValue (refused : settle given env = .error (.badValue o text e)) :
    text = textOf given env o ∧ o.check text = .error e := by
  have here (o' : Opt) (bad : valueOf o' (textOf given env o') o'.read =
      .error (.badValue o text e)) : text = textOf given env o ∧ o.check text = .error e := by
    obtain ⟨rfl, rfl, read⟩ := valueOf_eq_badValue bad
    exact ⟨rfl, by rw [Opt.check_eq, read]; rfl⟩
  simp only [settle, bind_eq_error_iff] at refused
  rcases refused with bad | ⟨_, -, bad | ⟨_, -, bad | ⟨_, -, bad | ⟨_, -, bad | ⟨_, -, bad |
    ⟨_, -, bad | ⟨_, -, bad | ⟨_, -, bad | ⟨_, -, done⟩⟩⟩⟩⟩⟩⟩⟩⟩
  · exact here .bindAddr bad
  · exact here .rateLimitIp bad
  · exact here .rateLimitIpBurst bad
  · exact here .rateLimitGlobal bad
  · exact here .rateLimitGlobalBurst bad
  · exact here .sweepInterval bad
  · exact here .logJson bad
  · exact here .requestTimeout bad
  · exact here .shutdownGrace bad
  · cases done

/-- What is complained of as the value of an option is a text that is given for it, in the
arguments or by its variable, and that is no value. -/
theorem parse_eq_badValue (refused : parse arguments env = .error (.badValue o text e)) :
    o.check text = .error e ∧ (Gives arguments o text ∨ env.lookup o.envName = some text) := by
  rw [parse, bind_eq_error_iff] at refused
  rcases refused with scanned | ⟨given, scanned, settled⟩
  · rw [scan_eq, map_eq_error_iff] at scanned
    obtain ⟨bad, gives⟩ := (accounts_scan arguments).complains o text e scanned
    exact ⟨bad, .inl gives⟩
  · obtain ⟨rfl, bad⟩ := settle_eq_badValue settled
    refine ⟨bad, .inr ?_⟩
    -- Texts in the arguments have been checked, and the default is a value.
    unfold textOf at bad ⊢
    cases found : given.lookup o with
    | some text =>
      obtain ⟨before, behind, rfl, -⟩ := List.lookup_eq_some_iff.1 found
      have value : o.check text = .ok () := check_of_scan scanned (o, text) (by simp)
      simp [found, value] at bad
    | none =>
      simp only [found] at bad ⊢
      cases set : env.lookup o.envName with
      | some text => rfl
      | none =>
        have value := Opt.check_eq_ok_iff.2 ⟨_, o.read_defaultText⟩
        simp [set, value] at bad

end Floodgate.CommandLine
