/-!
# Request targets

A target is a path with an optional query, or such a path behind a scheme and an authority, or an
authority alone, which has no path. A fragment is cut off. Escapes are left as they are.

## Main definitions

* `Http.Target` — the path and the query of a target
* `Http.Target.read` — the target that a text stands for
-/

namespace Floodgate.Http

/-- Path and query of a request target. A missing query is an empty one. -/
structure Target where
  path : String
  query : String
  deriving DecidableEq

namespace Target

/-- A character that a path may hold. -/
def isPathChar (c : Char) : Bool :=
  let n := c.toNat
  n == 0x21 || n == 0x22 || (0x24 ≤ n && n ≤ 0x3b) || n == 0x3d || (0x40 ≤ n && n ≤ 0x5f) ||
    (0x61 ≤ n && n != 0x7f)

/-- A character that a query may hold. -/
def isQueryChar (c : Char) : Bool :=
  let n := c.toNat
  n == 0x21 || (0x24 ≤ n && n ≤ 0x3b) || n == 0x3d || (0x3f ≤ n && n != 0x7f)

/-- A path with an optional query, up to a fragment. -/
def readPath (cs : List Char) : Option Target :=
  let cs := cs.takeWhile (· ≠ '#')
  let path := cs.takeWhile (· ≠ '?')
  let query := (cs.dropWhile (· ≠ '?')).drop 1
  if path.all isPathChar && query.all isQueryChar then
    some ⟨String.ofList (if path.isEmpty then ['/'] else path), String.ofList query⟩
  else none

/-! ### Authorities -/

/-- A character that an authority may hold, apart from the percent sign. -/
def isAuthorityChar (c : Char) : Bool := c.isAlphanum || "-._~:[]@!$&'()*+,;=".toList.contains c

/-- What has been seen of an authority: colons, whether brackets were opened and closed, and
whether there was a percent sign. Colons and percent signs in front of an at sign or within
brackets do not count. -/
structure AuthorityState where
  colons : Nat := 0
  opened : Bool := false
  closed : Bool := false
  percent : Bool := false

/-- See one more character. -/
def AuthorityState.see (s : AuthorityState) (c : Char) : Option AuthorityState :=
  if c = '%' then some { s with percent := true }
  else if !isAuthorityChar c then none
  else if c = ':' then if 8 ≤ s.colons then none else some { s with colons := s.colons + 1 }
  else if c = '[' then
    if s.percent || s.opened then none else some { s with opened := true }
  else if c = ']' then
    if !s.opened || s.closed then none
    else some { s with closed := true, colons := 0, percent := false }
  else if c = '@' then some { s with colons := 0, percent := false }
  else some s

/-- An authority is well formed: brackets are closed, at most one colon is left for a port, and
something follows an at sign. -/
def isAuthority (cs : List Char) : Bool :=
  match cs.foldlM AuthorityState.see {} with
  | none => false
  | some s => s.opened == s.closed && s.colons ≤ 1 && cs.getLast? != some '@' && !s.percent

/-- A character that ends an authority. -/
def endsAuthority (c : Char) : Bool := c == '/' || c == '?' || c == '#'

/-- A character of a scheme. -/
def isSchemeChar (c : Char) : Bool := c.isAlphanum || c == '+' || c == '-' || c == '.' || c == '~'

/-- What follows a scheme and its mark; the outer `none` is a scheme that is too long. -/
def afterScheme (cs : List Char) : Option (Option (List Char)) :=
  let scheme := cs.takeWhile isSchemeChar
  match cs.dropWhile isSchemeChar with
  | ':' :: '/' :: '/' :: rest => if 64 < scheme.length then none else some (some rest)
  | _ => some none

/-- The greatest size of a target in bytes. -/
def greatestSize : Nat := 65534

/-- The target that a text stands for. -/
def read (s : String) : Option Target :=
  if greatestSize < s.utf8ByteSize then none
  else match s.toList with
    | [] => none
    | ['*'] => some ⟨"*", ""⟩
    | '/' :: cs => readPath ('/' :: cs)
    | cs => do
      match ← afterScheme cs with
      | none =>
        -- Without a scheme nothing may follow the authority.
        let authority := cs.takeWhile (!endsAuthority ·)
        if authority.length = cs.length && isAuthority cs then some ⟨"", ""⟩ else none
      | some rest =>
        let authority := rest.takeWhile (!endsAuthority ·)
        if authority.isEmpty || !isAuthority authority then none
        else readPath (rest.drop authority.length)

example : read "http://u@h:1/health?x#f" = some ⟨"/health", "x"⟩ := by decide +kernel
example : read "example.com:443" = some ⟨"", ""⟩ := by decide +kernel
example : read "/a b" = none := by decide +kernel

end Target

end Floodgate.Http
