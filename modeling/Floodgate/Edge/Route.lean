import Floodgate.Text.Quoted

/-!
# Routes

A route is a path in which a segment may be left open: `:name` stands for any characters up to the
next slash, and `*name` at the end for all that is left of a path. Neither stands for nothing at
the end of a path. A table of routes is one in which no two can be asked for by the same paths
without one of them being more exact.

## Main definitions

* `Route.Piece`, `Route.read` — what a path is made of
* `Route.admits` — whether a route leads to a path
* `Route.isExacterThan` — which of two routes is taken
* `Route.table` — a table of routes

## Main results

* `admits_exact_iff` — a route without open segments leads to one path
-/

namespace Floodgate

/-- What is wrong with a table of routes. -/
inductive RouteFault where
  | empty
  | relative
  /-- There is a route under this path already. -/
  | taken (path : String)
  /-- A segment has more than one name. -/
  | crowded (path : String)
  | unnamed (path : String)
  /-- Something stands behind a part for all that is left. -/
  | early (path : String)
  /-- Neither of two routes is more exact. -/
  | clash (path other : String)
  /-- There are more names than letters. -/
  | countless
  deriving DecidableEq, Repr

/-- What is said of a table of routes. -/
def RouteFault.message : RouteFault → String
  | empty => "Paths must start with a `/`. Use \"/\" for root routes"
  | relative => "Paths must start with a `/`"
  | taken path =>
    "Overlapping method route. Handler for `GET " ++ path ++ "` already exists"
  | crowded path => invalid path ++ "only one parameter is allowed per path segment"
  | unnamed path => invalid path ++ "parameters must be registered with a name"
  | early path =>
    invalid path ++ "catch-all parameters are only allowed at the end of a route"
  | clash path other =>
    invalid path ++ "insertion failed due to conflict with previously registered route: " ++ other
  | countless => "too many route parameters"
where
  invalid (path : String) : String := "Invalid route " ++ quoted path ++ ": "

namespace Route

/-- A piece of a path. -/
inductive Piece where
  | literal (c : Char)
  /-- Any characters up to a slash. -/
  | segment
  /-- All that is left. -/
  | rest
  deriving DecidableEq, Repr

/-- The piece is open: it stands for different characters. -/
def Piece.isOpen : Piece → Bool
  | literal _ => false
  | _ => true

/-- The pieces of a path from some place on, which may be within a name. -/
def readPieces (path : String) (inName : Bool) : List Char → Except RouteFault (List Piece)
  | [] => .ok []
  | c :: cs =>
    if inName ∧ c ≠ '/' then readPieces path true cs
    else if c = ':' ∨ c = '*' then
      let name := cs.takeWhile (· ≠ '/')
      if name.any fun c => c = ':' ∨ c = '*' then .error (.crowded path)
      else if name.isEmpty then .error (.unnamed path)
      else do .ok ((if c = ':' then .segment else .rest) :: (← readPieces path true cs))
    else do .ok (.literal c :: (← readPieces path false cs))

/-- Pieces lead to a path. -/
def leads : List Piece → List Char → Bool
  | [], path => path.isEmpty
  | .literal c :: ps, d :: path => c = d && leads ps path
  | .segment :: ps, d :: path => leads ps ((d :: path).dropWhile (· ≠ '/'))
  | .rest :: _, _ :: _ => true
  | _ :: _, [] => false

/-- The first pieces in which two lists differ, if both go on there. -/
def parting : List Piece → List Piece → Option (Piece × Piece)
  | p :: ps, q :: qs => if p = q then parting ps qs else some (p, q)
  | _, _ => none

end Route

/-- A path under which there is something. -/
structure Route (α : Type) where
  path : String
  pieces : List Route.Piece
  resource : α

namespace Route

variable {α : Type}

/-- A route without open pieces. -/
def exact (path : String) (resource : α) : Route α :=
  ⟨path, path.toList.map .literal, resource⟩

/-- The route leads to a path. -/
def admits (r : Route α) (path : String) : Bool := leads r.pieces path.toList

theorem leads_literals_iff {cs path : List Char} :
    leads (cs.map .literal) path = true ↔ path = cs := by
  induction cs generalizing path with
  | nil => cases path <;> simp [leads]
  | cons c cs ih =>
    cases path with
    | nil => simp [leads]
    | cons d path =>
      rw [List.map_cons, leads, Bool.and_eq_true, decide_eq_true_eq, ih, List.cons.injEq]
      exact ⟨fun h => ⟨h.1.symm, h.2⟩, fun h => ⟨h.1.symm, h.2⟩⟩

theorem admits_exact_iff {path other : String} {resource : α} :
    (exact path resource).admits other = true ↔ other = path := by
  simp only [admits, exact, leads_literals_iff, String.toList_inj]

/-- The route is more exact than another one to the same path: where they part it has a
character. -/
def isExacterThan (r s : Route α) : Bool :=
  match parting r.pieces s.pieces with
  | some (.literal _, _) => true
  | _ => false

/-- The route that is taken to a path. -/
def find? (routes : List (Route α)) (path : String) : Option (Route α) :=
  (routes.filter (·.admits path)).foldl (fun best r =>
    if best.all r.isExacterThan then some r else best) none

/-! ### Tables -/

/-- The route of a path. -/
def read (path : String) (resource : α) : Except RouteFault (Route α) :=
  match path.toList with
  | [] => .error .empty
  | c :: cs => do
    if c ≠ '/' then .error .relative
    else
      let pieces ← readPieces path false (c :: cs)
      if 26 ≤ pieces.count .segment then .error .countless else .ok ⟨path, pieces, resource⟩

/-- Both pieces are open, and one of them is for all that is left. -/
def Piece.rivals (p q : Piece) : Bool := p.isOpen && q.isOpen && (p = .rest || q = .rest)

/-- The place where two lists of pieces cannot be told apart, as the pieces from there on. -/
def clashing : List Piece → List Piece → Option (List Piece × List Piece)
  | [], [] => some ([], [])
  | p :: ps, q :: qs =>
    if p.rivals q then some (p :: ps, q :: qs)
    else if p = q then clashing ps qs
    else none
  | _, _ => none

/-- The piece that occurs most often, of several the one that did so first. -/
def commonest (pieces : List Piece) : Option Piece :=
  (pieces.foldl (fun (seen, best) p =>
    let seen := p :: seen
    (seen, if best.all fun b => seen.count b < seen.count p then some p else best))
    (([] : List Piece), (none : Option Piece))).2

/-- The first of the longest ways on: characters come before open pieces, and of characters the
one that most ways share. -/
def firstWay (ways : List (String × List Piece)) : Nat → Option String
  | 0 => ways.head?.map (·.1)
  | fuel + 1 =>
    let heads := ways.filterMap (·.2.head?)
    match (commonest (heads.filter (!·.isOpen))).or heads.head? with
    | none => ways.head?.map (·.1)
    | some p =>
      let on := ways.filter (·.2.head? = some p)
      firstWay (on.map fun (path, ps) => (path, ps.tail)) fuel

/-- The path that a route clashes with, if it does. -/
def rival? (routes : List (Route α)) (r : Route α) : Option String :=
  let ways := routes.filterMap fun s => (clashing r.pieces s.pieces).map fun w => (s.path, w.2)
  firstWay ways ((ways.map (·.2.length)).foldl max 0)

/-- All that is left is left open only at the end. -/
def closesWithRest (pieces : List Piece) : Bool := !pieces.dropLast.contains .rest

/-- The table with one more route. -/
def insert (routes : List (Route α)) (r : Route α) : Except RouteFault (List (Route α)) :=
  match rival? routes r with
  | some other => .error (.clash r.path other)
  | none => if closesWithRest r.pieces then .ok (routes ++ [r]) else .error (.early r.path)

/-- The table of paths, or what is wrong with the first one that cannot be in it. -/
def table (paths : List (String × α)) : Except RouteFault (List (Route α)) :=
  paths.foldlM (fun routes (path, resource) =>
    if routes.any (·.path = path) then .error (.taken path)
    else do insert routes (← read path resource)) []

/-- The message of a table that cannot be, or the path of the route that is taken. -/
private def answerFor (paths : List String) (path : String) : String :=
  match table (paths.map (·, ())) with
  | .error e => e.message
  | .ok routes => ((find? routes path).map (·.path)).getD ""

example : answerFor ["/a/:x", "/a/b", "/a/b/*r"] "/a/b" = "/a/b" := by decide +kernel
example : answerFor ["/a/:x/c", "/a/b", "/a/b/*r"] "/a/b/c" = "/a/b/*r" := by decide +kernel
example : answerFor ["/a/:x/c", "/a/b/d"] "/a/b/c" = "/a/:x/c" := by decide +kernel
example : answerFor ["/a/:x", "/a/*r"] "/" = (RouteFault.clash "/a/*r" "/a/:x").message := by
  decide +kernel
example : answerFor ["/a/*r/b"] "/" = (RouteFault.early "/a/*r/b").message := by decide +kernel

end Route

end Floodgate
