import Floodgate.Net.Address
import Floodgate.Power

/-!
# Socket addresses

An internet address with a port. An address of eight groups stands in brackets and may have a
scope, a number behind a percent sign; scope zero is not written.
-/

namespace Floodgate

/-- A socket address. -/
inductive Socket where
  | v4 (quad : Quad) (port : UInt16)
  | v6 (groups : List UInt16) (length_eq : groups.length = 8) (scope : UInt32) (port : UInt16)

namespace Socket

instance : DecidableEq Socket
  | .v4 q p, .v4 q' p' => decidable_of_iff (q = q' ∧ p = p') (by simp)
  | .v6 gs _ s p, .v6 gs' _ s' p' => decidable_of_iff (gs = gs' ∧ s = s' ∧ p = p') (by simp)
  | .v4 .., .v6 .. => .isFalse (by simp)
  | .v6 .., .v4 .. => .isFalse (by simp)

/-- The internet address alone. -/
def address : Socket → Address
  | .v4 q _ => .v4 q
  | .v6 gs h _ _ => .v6 gs h

/-- The port. -/
def port : Socket → UInt16
  | .v4 _ p => p
  | .v6 _ _ _ p => p

/-- The same address with another port. -/
def withPort (s : Socket) (port : UInt16) : Socket :=
  match s with
  | .v4 q _ => .v4 q port
  | .v6 gs h scope _ => .v6 gs h scope port

/-- A number below a limit, in one or more digits. -/
def readBelow (limit : Nat) (ds : List Char) : Option Nat :=
  if ds.isEmpty || !ds.all Char.isDigit then none
  else if Decimal.value ds < limit then some (Decimal.value ds) else none

/-- A port. -/
def readPort (ds : List Char) : Option UInt16 := (readBelow (2 ^ 16) ds).map UInt16.ofNat

/-- The socket address that a text stands for. -/
def read (cs : List Char) : Option Socket :=
  match cs with
  | '[' :: cs => do
    let inside := cs.takeWhile (· ≠ ']')
    let scope ← match inside.dropWhile (· ≠ '%') with
      | [] => some 0
      | _ :: ds => readBelow (2 ^ 32) ds
    match ← Address.readV6 (inside.takeWhile (· ≠ '%')), cs.drop inside.length with
    | .v6 gs h, ']' :: ':' :: ds => (readPort ds).map (.v6 gs h (UInt32.ofNat scope))
    | _, _ => none
  | cs => do
    let quad ← Quad.read (cs.takeWhile (· ≠ ':'))
    match cs.dropWhile (· ≠ ':') with
    | ':' :: ds => (readPort ds).map (.v4 quad)
    | _ => none

/-- The text of a socket address. -/
def text : Socket → String
  | .v4 q port => String.ofList (q.write ++ ':' :: Decimal.digits port.toNat)
  | .v6 gs _ scope port =>
    let scope := if scope = 0 then [] else '%' :: Decimal.digits scope.toNat
    String.ofList ('[' :: Address.writeV6 gs ++ scope ++ ']' :: ':' :: Decimal.digits port.toNat)

example : (read "[fe80::1%01]:080".toList).map text = some "[fe80::1%1]:80" := by decide +kernel
example : (read "1.2.3.4".toList).map text = none := by decide +kernel

end Socket

end Floodgate
