import Floodgate.Environment.Basic
import Floodgate.Text.Alphanumeric
import Floodgate.Text.Blank
import Floodgate.Text.Split

/-!
# Environment files

A file of lines such as `export NAME='value' # remark`. A value is bare or quoted, in whole or in
part; single quotes keep everything, elsewhere a backslash escapes and a dollar sign stands for
the value of a variable. Variables that are set already keep their values, and the first line
that cannot be read ends the file.

## Main definitions

* `Environment.readValue` — the value that a text stands for
* `Environment.readLine` — the variable of a line
* `Environment.load` — an environment with the variables of a file added
* `Environment.mentioned` — the variables whose values a file may ask for
-/

namespace Floodgate.Environment

/-- Where a reader is within a value. -/
inductive Phase where
  | plain
  /-- Between single quotes. -/
  | kept
  /-- Behind a backslash. -/
  | escaped
  /-- In the name of a variable, behind a dollar sign. -/
  | name (reversed : List Char)
  /-- In the name of a variable, in braces. -/
  | braced (reversed : List Char)
  /-- Behind the value. -/
  | after
  /-- In a remark. -/
  | remark
  deriving DecidableEq

/-- What has been read of a value: its characters, the last first, whether double quotes are
open, and where the reader is. -/
structure Partial where
  reversed : List Char := []
  quoted : Bool := false
  phase : Phase := .plain

namespace Partial

/-- The value with one more character. -/
def push (p : Partial) (c : Char) : Partial :=
  { p with reversed := c :: p.reversed, phase := .plain }

/-- The value with the value of a variable appended; a variable that is not set is empty. -/
def pushVariable (env : Environment) (p : Partial) (reversedName : List Char) : Partial :=
  let value := (env.valueBehind reversedName.reverse).getD ""
  { p with reversed := value.toList.reverse ++ p.reversed, phase := .plain }

/-- A character that is escaped to stand for itself. -/
def isEscapable (c : Char) : Bool := c == '\\' || c == '\'' || c == '"' || c == '$' || c == ' '

/-- See one more character. -/
def see (env : Environment) (p : Partial) (c : Char) : Option Partial :=
  match p.phase with
  | .remark => some p
  | .after =>
    if c = ' ' ∨ c = '\t' then some p
    else if c = '#' then some { p with phase := .remark }
    else none
  | .escaped =>
    if isEscapable c then some (p.push c)
    else if c = 'n' then some (p.push '\n')
    else none
  | .kept =>
    some (if c = '\'' then { p with phase := .plain } else { p.push c with phase := .kept })
  | .name reversed =>
    if isAlphanumeric c then some { p with phase := .name (c :: reversed) }
    else if c = '\x7b' ∧ reversed = [] then some { p with phase := .braced [] }
    -- The character that ends a name stands for itself, a quote too.
    else
      let p := p.pushVariable env reversed
      some (if c = '$' then { p with phase := .name [] } else p.push c)
  | .braced reversed =>
    some (if c = '\x7d' then p.pushVariable env reversed
      else { p with phase := .braced (c :: reversed) })
  | .plain =>
    if c = '$' then some { p with phase := .name [] }
    else if c = '\\' then some { p with phase := .escaped }
    else if c = '"' then some { p with quoted := !p.quoted }
    else if p.quoted then some (p.push c)
    else if c = '\'' then some { p with phase := .kept }
    else if c = ' ' ∨ c = '\t' then some { p with phase := .after }
    else some (p.push c)

/-- The whole value, unless a quote or a brace is left open. -/
def finish (env : Environment) (p : Partial) : Option String :=
  let text (p : Partial) := String.ofList p.reversed.reverse
  if p.quoted then none
  else match p.phase with
    | .kept | .braced _ => none
    | .name reversed => some (text (p.pushVariable env reversed))
    | _ => some (text p)

end Partial

/-- The value that a text stands for. -/
def readValue (env : Environment) (cs : List Char) : Option String := do
  (← cs.foldlM (Partial.see env) {}).finish env

/-- A character that a name begins with. -/
def isNameStart (c : Char) : Bool := c.isAlpha || c == '_'

/-- A character of a name. -/
def isNameChar (c : Char) : Bool := c.isAlphanum || c == '_' || c == '.'

/-- The name at the front of a text, and what follows it and the blanks behind it. -/
def readName (cs : List Char) : Option (List Char × List Char) :=
  match cs with
  | [] => none
  | c :: _ =>
    if isNameStart c then some (cs.takeWhile isNameChar, dropBlanks (cs.dropWhile isNameChar))
    else none

/-- The name of a line's variable and its text behind the equals sign. The word `export` may
stand before the name, and may be a name. -/
def readAssignment (cs : List Char) : Option (List Char × List Char) := do
  let (name, rest) ← readName cs
  match rest with
  | '=' :: rest => some (name, dropBlanks rest)
  | _ =>
    if name = "export".toList then
      let (name, rest) ← readName rest
      match rest with
      | '=' :: rest => some (name, dropBlanks rest)
      | _ => none
    else none

/-- The variable of a line. The inner `none` is a line without one, the outer one a line that
cannot be read. -/
def readLine (env : Environment) (cs : List Char) : Option (Option (String × String)) :=
  let cs := trimBlanks cs
  match cs with
  | [] | '#' :: _ => some none
  | _ => do
    let (name, value) ← readAssignment cs
    let value ← match value with
      | '#' :: _ => some ""
      | value => readValue env value
    some (some (String.ofList name, value))

/-- The names of variables that a file may refer to. -/
def mentioned (text : String) : List String :=
  ((splitOn '$' text.toList).drop 1).map fun cs => match cs with
    | '\x7b' :: cs => String.ofList (cs.takeWhile fun c => c ≠ '\x7d' ∧ c ≠ '=')
    | cs => String.ofList (cs.takeWhile isAlphanumeric)

/-- The environment with the variables of lines added. -/
def loadLines (env : Environment) : List (List Char) → Environment
  | [] => env
  | line :: lines =>
    match readLine env line with
    | none => env
    | some none => loadLines env lines
    | some (some (name, value)) => loadLines (env.add name value) lines

/-- The environment with the variables of a file added. -/
def load (env : Environment) (text : String) : Environment :=
  loadLines env (splitOn '\n' text.toList)

example : load [("A", "1")] "# x\nA=2\nexport B='$A \"' # y\nC=\"${A}\\n\"$B-\nD=" =
    [("A", "1"), ("B", "$A \""), ("C", "1\n$A \"-"), ("D", "")] := by decide +kernel
example : load [] "A=1\nB=x y\nC=3" = [("A", "1")] := by decide +kernel
example : load [("A", "B=1")] "C=$\x7bA=B\x7d-$\x7bA=\x7d" = [("A", "B=1"), ("C", "1-")] := by
  decide +kernel
example : mentioned "A=$B-$\x7bC_D\x7d" = ["B", "C_D"] := by decide +kernel

end Floodgate.Environment
