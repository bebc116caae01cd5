import Floodgate.Json.Fault
import Floodgate.Text.Hexadecimal

/-!
# Reading JSON strings

The characters between the quotes stand for themselves, except that a backslash begins an escape
and that controls are refused. A code point beyond the first plane is escaped as a pair of
surrogates; a surrogate outside a pair stands for no character.

## Main definitions

* `Json.readText` — the text of a string whose opening quote has been read
* `Json.skipText` — what follows a string, surrogates not paired up
-/

namespace Floodgate.Json

/-- The number spelled by four hexadecimal digits. Fewer than four bytes of text are an early
end, whatever they hold. -/
def readUnit (cs : List Char) : Except Fault (Nat × List Char) :=
  if (cs.foldl (fun n c => n + c.utf8Size) 0) < 4 then .error .truncated
  else match Hexadecimal.value? (cs.take 4) with
    | some n => .ok (n, cs.drop 4)
    | none => .error .malformed

/-- A surrogate that begins a pair. -/
def isLeading (unit : Nat) : Bool := 0xd800 ≤ unit && unit ≤ 0xdbff

/-- A surrogate that ends a pair. -/
def isTrailing (unit : Nat) : Bool := 0xdc00 ≤ unit && unit ≤ 0xdfff

/-- The code point that a pair of surrogates stands for. -/
def paired (leading trailing : Nat) : Nat :=
  0x10000 + (leading - 0xd800) * 0x400 + (trailing - 0xdc00)

/-- The character of an escape that is a single letter. -/
def simpleEscape (c : Char) : Option Char :=
  match c with
  | '"' => some '"'
  | '\\' => some '\\'
  | '/' => some '/'
  | 'b' => some '\x08'
  | 'f' => some '\x0c'
  | 'n' => some '\n'
  | 'r' => some '\r'
  | 't' => some '\t'
  | _ => none

/-- The character that an escape stands for, its backslash already read. -/
def readEscape (cs : List Char) : Except Fault (Char × List Char) :=
  match cs with
  | [] => .error .truncated
  | c :: cs =>
    if c = 'u' then do
      let (unit, cs) ← readUnit cs
      if isTrailing unit then .error .malformed
      else if isLeading unit then do
        let cs ← skipWord ['\\', 'u'] cs
        let (trailing, cs) ← readUnit cs
        if isTrailing trailing then .ok (Char.ofNat (paired unit trailing), cs)
        else .error .malformed
      else .ok (Char.ofNat unit, cs)
    else match simpleEscape c with
      | some c => .ok (c, cs)
      | none => .error .malformed

/-- The characters up to the closing quote. The first argument bounds the number of characters
read; the length of the text is enough. -/
def readContent : Nat → Reader (List Char)
  | 0, _ => .error .truncated
  | fuel + 1, cs =>
    match cs with
    | [] => .error .truncated
    | c :: cs =>
      if c = '"' then .ok ([], cs)
      else if c = '\\' then do
        let (c, cs) ← readEscape cs
        let (content, cs) ← readContent fuel cs
        .ok (c :: content, cs)
      else if c.toNat < 0x20 then .error .malformed
      else do
        let (content, cs) ← readContent fuel cs
        .ok (c :: content, cs)

/-- The text of a string, its opening quote already read. -/
def readText : Reader String := fun cs => do
  let (content, cs) ← readContent cs.length cs
  .ok (String.ofList content, cs)

/-- What follows an escape, its backslash already read. -/
def skipEscape (cs : List Char) : Except Fault (List Char) :=
  match cs with
  | [] => .error .truncated
  | c :: cs =>
    if c = 'u' then (readUnit cs).map Prod.snd
    else if (simpleEscape c).isSome then .ok cs
    else .error .malformed

/-- What follows the closing quote; the first argument is as for `readContent`. -/
def skipContent : Nat → List Char → Except Fault (List Char)
  | 0, _ => .error .truncated
  | fuel + 1, cs =>
    match cs with
    | [] => .error .truncated
    | c :: cs =>
      if c = '"' then .ok cs
      else if c = '\\' then do skipContent fuel (← skipEscape cs)
      else if c.toNat < 0x20 then .error .malformed
      else skipContent fuel cs

/-- What follows a string, its opening quote already read. -/
def skipText (cs : List Char) : Except Fault (List Char) := skipContent cs.length cs

end Floodgate.Json
