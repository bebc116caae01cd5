import Floodgate.Text.Alphanumeric
import Floodgate.Text.Blank
import Floodgate.Text.Hexadecimal

/-!
# Patterns of values

Whether a text is a regular expression that values can be matched with. A pattern is of characters
or of bytes. One of characters can neither ignore case nor ask for digits, words and blanks, since
that takes tables of all characters; one of bytes must not match a part of a character. A closing
brace never stands in a value, so no repetition is counted.

## Main definitions

* `Pattern.Modes`, `Pattern.State` — what has been seen of a pattern
* `Pattern.step` — one more item of a pattern
* `Pattern.check` — whether a text is a pattern
-/

namespace Floodgate

/-- What is wrong with a pattern. -/
inductive PatternError where
  /-- The text is no pattern, or one that cannot be built. -/
  | unbuildable
  /-- The pattern asks for the edge of a word of characters. -/
  | wordEdge
  deriving DecidableEq, Repr

/-- What is said of a pattern. -/
def PatternError.message : PatternError → String
  | unbuildable => "error building NFA"
  | wordEdge => "unsupported regex feature for DFAs: cannot build DFAs for regexes with Unicode " ++
      "word boundaries; switch to ASCII word boundaries, or heuristically enable Unicode word " ++
      "boundaries or use a different regex engine"

namespace Pattern

/-! ### Modes -/

/-- How the items of a pattern are meant. -/
structure Modes where
  /-- Case is ignored. -/
  caseless : Bool := false
  /-- The pattern is of characters, not of bytes. -/
  unicode : Bool := true
  /-- Blanks and remarks do not count. -/
  spaced : Bool := false

namespace Modes

/-- Switch a mode by its letter. The other modes do not matter here. -/
def switch (m : Modes) (on : Bool) : Char → Modes
  | 'i' => { m with caseless := on }
  | 'u' => { m with unicode := on }
  | 'x' => { m with spaced := on }
  | _ => m

/-- The modes that letters switch on and, behind a dash, off; each stands there once. -/
def read (m : Modes) (letters : List Char) : Option Modes :=
  let on := letters.takeWhile (· ≠ '-')
  let off := letters.dropWhile (· ≠ '-')
  if letters.all "imsUuRx-".toList.contains ∧ letters.Nodup ∧ letters.getLast? ≠ some '-' then
    some (off.foldl (switch · false) (on.foldl (switch · true) m))
  else none

/-- A character can stand for itself. -/
def mayHold (m : Modes) : Bool := !(m.unicode && m.caseless)

/-- A code point can be in a class. -/
def mayClass (m : Modes) (code : Nat) : Bool := if m.unicode then !m.caseless else code < 0x80

end Modes

/-- What is left behind blanks and remarks. A remark goes to the end of its line. -/
def dropGap (inRemark : Bool) : List Char → List Char
  | [] => []
  | c :: cs =>
    if inRemark then dropGap (c ≠ '\n') cs
    else if isBlank c then dropGap false cs
    else if c = '#' then dropGap true cs
    else c :: cs

/-- How many characters at the front do not count. -/
def Modes.gap (m : Modes) (cs : List Char) : Nat :=
  if m.spaced then cs.length - (dropGap false cs).length else 0

/-! ### Escapes -/

/-- What an escape stands for. -/
inductive Escaped where
  | literal (code : Nat)
  /-- A class with a letter. -/
  | set
  /-- A place in the text. -/
  | place
  /-- The edge of a word. -/
  | wordEdge

/-- The code point that a number of hexadecimal digits at the front spells. -/
def codeOf? (count : Nat) (cs : List Char) : Option Nat := do
  let code ← Hexadecimal.value? (cs.take count)
  if (cs.take count).length = count ∧ code.isValidChar then some code else none

/-- What the text behind a backslash stands for, and how many characters of it. -/
def escape (m : Modes) : List Char → Option (Escaped × Nat)
  | [] => none
  | c :: cs =>
    match c with
    | 'x' => do
      let code ← codeOf? 2 cs
      if m.unicode ∨ code < 0x80 then some (.literal code, 3) else none
    | 'u' => (codeOf? 4 cs).map fun code => (.literal code, 5)
    | 'U' => (codeOf? 8 cs).map fun code => (.literal code, 9)
    | 'd' | 's' | 'w' => if m.unicode then none else some (.set, 1)
    | 'a' => some (.literal 0x07, 1)
    | 't' => some (.literal 0x09, 1)
    | 'n' => some (.literal 0x0a, 1)
    | 'v' => some (.literal 0x0b, 1)
    | 'f' => some (.literal 0x0c, 1)
    | 'r' => some (.literal 0x0d, 1)
    | 'A' | 'z' => some (.place, 1)
    | 'b' | 'B' | '<' | '>' => some (.wordEdge, 1)
    | _ => if c.toNat < 0x80 ∧ !c.isAlphanum then some (.literal c.toNat, 1) else none

/-! ### Classes -/

/-- The item of a class at the front of a text: its code point if it is one character, and how
many characters it takes. -/
def classItem (m : Modes) : List Char → Option (Option Nat × Nat)
  | [] => none
  | '\\' :: cs =>
    match escape m cs with
    | some (.literal code, k) => if m.mayClass code then some (some code, k + 1) else none
    | some (.set, k) => some (none, k + 1)
    | _ => none
  | c :: _ => if m.mayClass c.toNat then some (some c.toNat, 1) else none

/-- How many characters an item of a class, or a range of two, takes. -/
def classRange (m : Modes) (cs : List Char) : Option Nat := do
  let (low, size) ← classItem m cs
  let dash := size + m.gap (cs.drop size)
  match cs.drop dash with
  | '-' :: rest =>
    let high := dash + 1 + m.gap rest
    match cs.drop high with
    -- A dash at the end or before another one is no part of a range.
    | ']' :: _ | '-' :: _ => some size
    | rest => do
      let (highCode, size) ← classItem m rest
      if (← low) ≤ (← highCode) then some (high + size) else none
  | _ => some size

/-- The names of classes of ASCII. -/
def classNames : List String :=
  ["alnum", "alpha", "ascii", "blank", "cntrl", "digit", "graph", "lower", "print", "punct",
    "space", "upper", "word", "xdigit"]

/-- A named class behind an opening bracket: whether it is negated, and how many characters it
takes. -/
def namedClass : List Char → Option (Bool × Nat)
  | ':' :: cs =>
    let negated := cs.head? == some '^'
    let start := if negated then 1 else 0
    let name := (cs.drop start).takeWhile (· ≠ ':')
    if classNames.contains (String.ofList name) ∧
        (cs.drop (start + name.length)).take 2 = [':', ']'] then
      some (negated, start + name.length + 3)
    else none
  | _ => none

/-- How many characters behind an opening bracket belong to the opening: a sign of negation, then
dashes that stand for themselves or a bracket that does. -/
def classOpening (m : Modes) (cs : List Char) : Option Nat :=
  let start := m.gap cs
  let negated := (cs.drop start).head? = some '^'
  let start := if negated then start + 1 + m.gap (cs.drop (start + 1)) else start
  let dashes := ((cs.drop start).takeWhile (· = '-')).length
  if (negated ∧ !m.unicode) ∨ !m.mayHold then none
  else match cs.drop (start + dashes) with
    | ']' :: _ => some (if dashes = 0 then start + 1 else start + dashes)
    | _ => some (start + dashes)

/-! ### Patterns -/

/-- What has been seen of a pattern. -/
structure State where
  modes : Modes := {}
  /-- The modes around the open groups, those of the innermost first. -/
  outer : List Modes := []
  /-- The names of groups. -/
  names : List (List Char) := []
  /-- There is something to repeat. -/
  repeatable : Bool := false
  /-- How many brackets are open. -/
  depth : Nat := 0
  /-- The pattern asks for the edge of a word of characters. -/
  wordEdge : Bool := false

/-- The state behind an item. -/
def State.behindItem (s : State) : State := { s with repeatable := true }

/-- The state within a group. -/
def State.within (s : State) (modes : Modes) : State :=
  { s with modes, outer := s.modes :: s.outer, repeatable := false }

/-- The name of a group at the front of a text, up to an angle bracket. -/
def groupName (cs : List Char) : Option (List Char) :=
  let name := cs.takeWhile (· ≠ '>')
  let starts (c : Char) := c == '_' || (isAlphanumeric c && !c.isDigit)
  let continues (c : Char) := isAlphanumeric c || "_.[]".toList.contains c
  if name.length < cs.length ∧ name.head?.any starts ∧ name.all continues then some name else none

/-- See what opens behind a parenthesis, and how many characters belong to the opening. -/
def State.openGroup (s : State) (cs : List Char) : Option (State × Nat) :=
  let gap := s.modes.gap cs
  let named (start : Nat) : Option (State × Nat) := do
    let name ← groupName (cs.drop start)
    if s.names.contains name then none
    else some ({ s.within s.modes with names := name :: s.names }, start + name.length + 1)
  match cs.drop gap with
  | '?' :: 'P' :: '<' :: _ => named (gap + 3)
  | '?' :: '<' :: _ => named (gap + 2)
  | '?' :: rest => do
    let letters := rest.takeWhile fun c => c ≠ ':' ∧ c ≠ ')'
    let modes ← s.modes.read letters
    let size := gap + letters.length + 2
    match rest.drop letters.length with
    | ':' :: _ => some (s.within modes, size)
    | ')' :: _ =>
      -- The modes hold up to the end of the group around.
      if letters.isEmpty then none else some ({ s with modes, repeatable := false }, size)
    | _ => none
  | _ => some (s.within s.modes, gap)

/-- See one more item of a class that begins with a character; also how many characters behind
that one belong to the item. -/
def State.stepClass (s : State) (c : Char) (cs : List Char) : Option (State × Nat) :=
  if c = '[' then
    match namedClass cs with
    | some (negated, size) => if negated ∧ !s.modes.unicode then none else some (s, size)
    | none => (classOpening s.modes cs).map fun size => ({ s with depth := s.depth + 1 }, size)
  else if c = ']' then some ({ s with depth := s.depth - 1, repeatable := true }, 0)
  else if (c = '&' ∨ c = '-' ∨ c = '~') ∧ cs.head? = some c then some (s, 1)
  else (classRange s.modes (c :: cs)).map fun size => (s, size - 1)

/-- See one more item that begins with a character; also how many characters behind that one
belong to the item. -/
def State.step (s : State) (c : Char) (cs : List Char) : Option (State × Nat) :=
  if 0 < s.modes.gap (c :: cs) then some (s, s.modes.gap (c :: cs) - 1)
  else if 0 < s.depth then s.stepClass c cs
  else match c with
    | '(' => s.openGroup cs
    | ')' =>
      match s.outer with
      | [] => none
      | modes :: outer => some ({ s with modes, outer, repeatable := true }, 0)
    | '|' => some ({ s with repeatable := false }, 0)
    | '[' => (classOpening s.modes cs).map fun size => ({ s with depth := 1 }, size)
    | '?' | '*' | '+' => if s.repeatable then some (s, 0) else none
    | '\x7b' => none
    | '\\' => do
      let (escaped, size) ← escape s.modes cs
      match escaped with
      | .literal _ => if s.modes.mayHold then some (s.behindItem, size) else none
      | .set | .place => some (s.behindItem, size)
      | .wordEdge => some ({ s.behindItem with wordEdge := s.wordEdge || s.modes.unicode }, size)
    | '.' => if s.modes.unicode then some (s.behindItem, 0) else none
    | '^' | '$' => some (s.behindItem, 0)
    | _ => if s.modes.mayHold then some (s.behindItem, 0) else none

/-- The state at the end of a text, of which some characters have been seen already. -/
def State.scan (s : State) (seen : Nat) : List Char → Option State
  | [] => if s.outer.isEmpty ∧ s.depth = 0 then some s else none
  | c :: cs =>
    match seen with
    | seen + 1 => s.scan seen cs
    | 0 => (s.step c cs).bind fun (s, seen) => s.scan seen cs

/-- Whether a text is a pattern. -/
def check (cs : List Char) : Except PatternError Unit :=
  match ({} : State).scan 0 cs with
  | none => .error .unbuildable
  | some s => if s.wordEdge then .error .wordEdge else .ok ()

example : ["", "a*?|(b)+", "(?P<n>.)[^]a-z[:alpha:]&&[b]-]", "(?i-u:A)\\x41\\(",
    "(?x)( ? :a) # ("].map (fun text => (check text.toList).toOption.isSome) =
      [true, true, true, true, false] := by
  decide +kernel
example : ["*", "(", ")", "[b-a]", "[a", "a\x7b2", "\\", "\\d", "\\1", "(?)", "(?=a)", "(?i)a"].any
    (fun text => (check text.toList).toOption.isSome) = false := by
  decide +kernel
example : ["(?-u)\\d\\b", "(?-u:[\\w])é", "(?x) a # (", "(?i)(?-u)a"].all
    (fun text => (check text.toList).toOption.isSome) = true := by
  decide +kernel

end Pattern

end Floodgate
