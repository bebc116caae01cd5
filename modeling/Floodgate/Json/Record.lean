import Floodgate.Json.Scalar
import Floodgate.Json.Skip

/-!
# Reading records from JSON

A record is an object that has its members in any order, among members of other names that are
skipped, or an array of all its members in their own order. A member may not occur twice, and
one that is left out is told by name, the first of several.

## Main definitions

* `Json.Slot` — one member: its name, and how its value goes into a draft of the record
* `Json.Record` — the members, and how a draft becomes a value
* `Record.read` — the value that a whole text stands for
-/

namespace Floodgate.Json

/-- One member of a record that is drafted as a `δ`. -/
structure Slot (δ : Type) where
  name : String
  isFilled : δ → Bool
  /-- Read the member's value into a draft. -/
  fill : δ → Reader δ

/-- A record of type `α`, drafted as a `δ`. -/
structure Record (δ α : Type) where
  name : String
  slots : List (Slot δ)
  blank : δ
  /-- The finished record, or the name of a member that it lacks. -/
  finish : δ → Except String α

namespace Record

variable {δ α : Type}

/-- The record of a draft. -/
def finished (r : Record δ α) (d : δ) : Except Fault α :=
  match r.finish d with
  | .ok a => .ok a
  | .error name => .error (.mismatch ("missing field `" ++ name ++ "`"))

/-- The fault of an array with too few items. -/
def tooShort (r : Record δ α) (count : Nat) : Fault :=
  .mismatch ("invalid length " ++ Decimal.text count ++ ", expected struct " ++ r.name ++
    " with " ++ Decimal.text r.slots.length ++ " elements")

/-- Read the value of the member with a given name, colon included. -/
def readMember (r : Record δ α) (name : String) (d : δ) : Reader δ := fun cs =>
  match r.slots.find? (·.name = name) with
  | some slot =>
    if slot.isFilled d then .error (.mismatch ("duplicate field `" ++ name ++ "`"))
    else do slot.fill d (← skipMark ':' cs)
  | none => do .ok (d, ← skipValue (← skipMark ':' cs))

/-- Read the members of an object from one of them on, up to its closing brace. The first
argument bounds their number; the length of the text is enough. -/
def readMembers (r : Record δ α) : Nat → δ → Reader δ
  | 0, _, _ => .error .truncated
  | fuel + 1, d, cs => do
    let cs ← skipMark '"' cs
    let (name, cs) ← readText cs
    let (d, cs) ← r.readMember name d cs
    match skipBlanks cs with
    | [] => .error .truncated
    | ',' :: cs => r.readMembers fuel d cs
    | '\x7d' :: cs => .ok (d, cs)
    | _ => .error .malformed

/-- Read the items of an array, given the slots that are left. -/
def readItems (r : Record δ α) : List (Slot δ) → δ → Reader δ
  | [], d, cs =>
    match skipBlanks cs with
    | [] => .error .truncated
    | ']' :: cs => .ok (d, cs)
    | _ => .error .malformed
  | slot :: slots, d, cs =>
    let count := r.slots.length - (slots.length + 1)
    match skipBlanks cs with
    | [] => .error .truncated
    | ']' :: _ => .error (r.tooShort count)
    | cs@(c :: rest) =>
      if count = 0 then do
        let (d, cs) ← slot.fill d cs
        r.readItems slots d cs
      else if c = ',' then
        match skipBlanks rest with
        | ']' :: _ => .error .malformed
        | cs => do
          let (d, cs) ← slot.fill d cs
          r.readItems slots d cs
      else .error .malformed

/-- Read a record off the front of a text. -/
def readValue (r : Record δ α) : Reader α := fun cs => do
  let (v, cs) ← readFound cs
  match v with
  | .object =>
    let (d, cs) ← match skipBlanks cs with
      | '\x7d' :: cs => .ok (r.blank, cs)
      | cs => r.readMembers cs.length r.blank cs
    .ok (← r.finished d, cs)
  | .array =>
    let (d, cs) ← r.readItems r.slots r.blank cs
    .ok (← r.finished d, cs)
  | _ => .error (v.wrongType ("struct " ++ r.name))

/-- The record that a whole text stands for; only blanks may follow it. -/
def read (r : Record δ α) (text : String) : Except Fault α := do
  let (a, cs) ← r.readValue text.toList
  if (skipBlanks cs).isEmpty then .ok a else .error .malformed

end Record

/-- A slot that is a place for a value in the draft. -/
def Slot.ofReader {δ β : Type} (name : String) (reader : Reader β) (get : δ → Option β)
    (put : β → δ → δ) : Slot δ where
  name := name
  isFilled d := (get d).isSome
  fill d cs := do
    let (v, cs) ← reader cs
    .ok (put v d, cs)

/-- The value in a place of a draft, or the name of the member. -/
def required {β : Type} (name : String) : Option β → Except String β
  | some v => .ok v
  | none => .error name

end Floodgate.Json
