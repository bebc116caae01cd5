/-!
# Plain text

What is left of a text when control characters and control sequences are dropped. A sequence
begins with the escape character; the characters behind it tell how it goes on and where it ends.

## Main definitions

* `isPlain` — a character that is shown or that parts words and lines
* `Control` — the kinds of control sequences
* `plain` — the text without them

## Main results

* `plain_eq_self` — a text of plain characters is left as it is
-/

namespace Floodgate

/-- A control character that parts words or lines. -/
def isSpacing (c : Char) : Bool := c == '\t' || c == '\n' || c == '\x0c' || c == '\r'

/-- A character that is shown or that parts words and lines. -/
def isPlain (c : Char) : Bool := isSpacing c || (0x20 ≤ c.toNat && c.toNat != 0x7f)

/-- Where a reader is within a control sequence. -/
inductive Control where
  /-- Behind the escape character. -/
  | escaped
  /-- Behind characters that ask for one final character more. -/
  | marked
  /-- In the parameters of a command. -/
  | parameters
  /-- In a title or the like, which a bell ends. -/
  | title
  /-- In a string, which only another sequence ends. -/
  | string
  deriving DecidableEq, Repr

/-- The place in a sequence behind an escape character and one more; `none` ends the sequence. -/
def Control.ofFirst (c : Char) : Option Control :=
  if c = '[' then some .parameters
  else if c = ']' then some .title
  else if c = 'P' ∨ c = 'X' ∨ c = '^' ∨ c = '_' then some .string
  else if c.toNat < 0x30 then some .marked
  else none

/-- The place behind one more character of ASCII that shows; `none` ends the sequence. -/
def Control.next (k : Control) (c : Char) : Option Control :=
  match k with
  | escaped => ofFirst c
  | marked => if c.toNat < 0x30 then some k else none
  | parameters => if c.toNat < 0x40 then some k else none
  | title | string => some k

/-- White space ends a sequence of this kind. -/
def Control.endsAtSpacing : Control → Bool
  | title | string => false
  | _ => true

/-- The plain text behind a place within a control sequence, or outside of all. -/
def plainFrom (place : Option Control) : List Char → List Char
  | [] => []
  | c :: cs =>
    if c = '\x1b' then plainFrom (some .escaped) cs
    else match place with
      | none => if isPlain c then c :: plainFrom none cs else plainFrom none cs
      | some k =>
        -- Cancelling ends a sequence of any kind; a character beyond ASCII is a part of it.
        if c = '\x18' ∨ c = '\x1a' ∨ (c = '\x07' ∧ k = .title) then plainFrom none cs
        else if isSpacing c ∧ k.endsAtSpacing then c :: plainFrom none cs
        else if c.toNat ≤ 0x7f ∧ isPlain c ∧ ¬isSpacing c then plainFrom (k.next c) cs
        else plainFrom place cs

/-- The text without control characters and control sequences. -/
def plain (cs : List Char) : List Char := plainFrom none cs

theorem plain_eq_self {cs : List Char} (h : ∀ c ∈ cs, isPlain c = true) : plain cs = cs := by
  unfold plain
  induction cs with
  | nil => rfl
  | cons c cs ih =>
    have hc : isPlain c = true := h c (List.mem_cons_self ..)
    have hne : c ≠ '\x1b' := by rintro rfl; exact absurd hc (by decide)
    rw [plainFrom, if_neg hne]
    simp only [hc, if_true]
    rw [ih fun d hd => h d (List.mem_cons_of_mem _ hd)]

example : plain "a\x1b[é1mb\x1b]é".toList = "ab".toList := by decide +kernel
example : plain "a\x1b[1;31mb\x07c\x1b]t\x07d\x1b(Be\n\x1b[\tf".toList = "abcde\n\tf".toList := by
  decide +kernel

end Floodgate
