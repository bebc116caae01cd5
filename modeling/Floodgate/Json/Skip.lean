import Floodgate.Json.Number
import Floodgate.Json.Quoted

/-!
# Skipping JSON values

What follows a value whose content does not matter. Its shape is checked, the values of its
numbers and the pairing of its surrogates are not, and it may be nested to any depth.
-/

namespace Floodgate.Json

mutual

/-- What follows a value. The first argument bounds the depth of the recursion; twice the length
of the text is enough. -/
def skipWithin : Nat → List Char → Except Fault (List Char)
  | 0, _ => .error .truncated
  | fuel + 1, cs =>
    match skipBlanks cs with
    | [] => .error .truncated
    | c :: cs =>
      if c = '"' then skipText cs
      else if c = '[' then
        match skipBlanks cs with
        | ']' :: cs => .ok cs
        | cs => skipItems fuel cs
      else if c = '\x7b' then
        match skipBlanks cs with
        | '\x7d' :: cs => .ok cs
        | cs => skipMembers fuel cs
      else if c = 'n' then skipWord ['u', 'l', 'l'] cs
      else if c = 't' then skipWord ['r', 'u', 'e'] cs
      else if c = 'f' then skipWord ['a', 'l', 's', 'e'] cs
      else if c = '-' ∨ c.isDigit then skipNumber (c :: cs)
      else .error .malformed

/-- What follows an array, from one of its items on. -/
def skipItems : Nat → List Char → Except Fault (List Char)
  | 0, _ => .error .truncated
  | fuel + 1, cs => do
    match skipBlanks (← skipWithin fuel cs) with
    | [] => .error .truncated
    | ',' :: cs => skipItems fuel cs
    | ']' :: cs => .ok cs
    | _ => .error .malformed

/-- What follows an object, from one of its members on. -/
def skipMembers : Nat → List Char → Except Fault (List Char)
  | 0, _ => .error .truncated
  | fuel + 1, cs => do
    let cs ← skipMark '"' cs
    let cs ← skipText cs
    let cs ← skipMark ':' cs
    match skipBlanks (← skipWithin fuel cs) with
    | [] => .error .truncated
    | ',' :: cs => skipMembers fuel cs
    | '\x7d' :: cs => .ok cs
    | _ => .error .malformed

end

/-- What follows a value. -/
def skipValue (cs : List Char) : Except Fault (List Char) := skipWithin (2 * cs.length + 2) cs

example : (skipValue "[1, [\"\\ud800\", 1e999], null] x".toList).toOption = some " x".toList := by
  decide +kernel
example : (skipValue "[[1,]]".toList).toOption = none := by decide +kernel

end Floodgate.Json
