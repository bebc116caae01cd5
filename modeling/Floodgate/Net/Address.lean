import Floodgate.Text.Decimal
import Floodgate.Text.Hexadecimal
import Floodgate.Text.Split

/-!
# Internet addresses

An address is four octets or eight groups of sixteen bits. Its text has one canonical form, in
which the longest run of two or more zero groups is left out, the first of several that are
equally long; other forms are read as well.

## Main definitions

* `Quad`, `Address` — addresses
* `Quad.read`, `Address.read` — the address that a text stands for
* `Quad.write`, `Address.write` — the canonical text of an address
-/

namespace Floodgate

/-- An address of four octets. -/
structure Quad where
  a : UInt8
  b : UInt8
  c : UInt8
  d : UInt8
  deriving DecidableEq

/-- An internet address. -/
inductive Address where
  | v4 (quad : Quad)
  | v6 (groups : List UInt16) (length_eq : groups.length = 8)
  deriving DecidableEq

/-! ### Four octets -/

namespace Quad

/-- An octet: one to three digits without a leading zero. -/
def readOctet (ds : List Char) : Option UInt8 :=
  if ds.isEmpty || 3 < ds.length || !ds.all Char.isDigit then none
  else if ds.head? = some '0' ∧ ds.length ≠ 1 then none
  else if Decimal.value ds < 256 then some (UInt8.ofNat (Decimal.value ds))
  else none

/-- The address that a text of four octets with points between them stands for. -/
def read (cs : List Char) : Option Quad :=
  match splitOn '.' cs with
  | [a, b, c, d] => do
    some ⟨← readOctet a, ← readOctet b, ← readOctet c, ← readOctet d⟩
  | _ => none

/-- The four octets with points between them. -/
def write (q : Quad) : List Char :=
  let octet (x : UInt8) := Decimal.digits x.toNat
  octet q.a ++ '.' :: octet q.b ++ '.' :: octet q.c ++ '.' :: octet q.d

/-- The two groups that the octets make. -/
def groups (q : Quad) : List UInt16 :=
  [q.a.toUInt16 * 256 + q.b.toUInt16, q.c.toUInt16 * 256 + q.d.toUInt16]

/-- The octets of two groups. -/
def ofGroups (g h : UInt16) : Quad :=
  ⟨(g / 256).toUInt8, g.toUInt8, (h / 256).toUInt8, h.toUInt8⟩

end Quad

/-! ### Eight groups -/

namespace Address

/-- A group: one to four hexadecimal digits. -/
def readGroup (ds : List Char) : Option UInt16 :=
  if ds.isEmpty || 4 < ds.length then none
  else (Hexadecimal.value? ds).map UInt16.ofNat

/-- Groups with colons between them; no text is no groups. The last two may be written as four
octets if `quad` says so. -/
def readGroups (quad : Bool) (cs : List Char) : Option (List UInt16) :=
  if cs.isEmpty then some []
  else
    let parts := splitOn ':' cs
    match quad, parts.getLast?.bind Quad.read with
    | true, some q => (parts.dropLast.mapM readGroup).map (· ++ q.groups)
    | _, _ => parts.mapM readGroup

/-- Eight groups. -/
def ofGroups (groups : List UInt16) : Option Address :=
  if h : groups.length = 8 then some (.v6 groups h) else none

/-- The address that a text of groups stands for. Two colons in a row stand for the zero groups
that are missing, of which there is at least one. -/
def readV6 (cs : List Char) : Option Address :=
  match cutAt ':' cs with
  | none => (readGroups true cs).bind ofGroups
  | some (before, after) => do
    let before ← readGroups false before
    let after ← readGroups true after
    let missing := 8 - (before.length + after.length)
    if missing = 0 then none
    else ofGroups (before ++ List.replicate missing 0 ++ after)

/-- The address that a text stands for. -/
def read (cs : List Char) : Option Address :=
  match Quad.read cs with
  | some q => some (.v4 q)
  | none => readV6 cs

/-- Where the longest run of zeros begins and how long it is, the first of several. -/
def longestZeros : List UInt16 → Nat × Nat
  | [] => (0, 0)
  | g :: gs =>
    let here := ((g :: gs).takeWhile (· = 0)).length
    let (start, length) := longestZeros gs
    -- Of two runs of one length the earlier is kept.
    if length ≤ here then (0, here) else (start + 1, length)

/-- Groups with colons between them. -/
def writeGroups (gs : List UInt16) : List Char :=
  [':'].intercalate (gs.map fun g => Hexadecimal.digits g.toNat)

/-- The text of eight groups. Addresses whose first six groups are five zeros and `ffff` end in
four octets. -/
def writeV6 (gs : List UInt16) : List Char :=
  match gs with
  | [0, 0, 0, 0, 0, 0xffff, g, h] => "::ffff:".toList ++ (Quad.ofGroups g h).write
  | gs =>
    let (start, length) := longestZeros gs
    if 2 ≤ length then
      writeGroups (gs.take start) ++ ':' :: ':' :: writeGroups (gs.drop (start + length))
    else writeGroups gs

/-- The canonical text of an address. -/
def write : Address → List Char
  | .v4 q => q.write
  | .v6 gs _ => writeV6 gs

/-- The canonical text of an address as a string. -/
def text (a : Address) : String := String.ofList a.write

example : (read "1:0:0:2::3".toList).map write = some "1:0:0:2::3".toList := by decide +kernel
example : (read "::FFFF:102:304".toList).map write = some "::ffff:1.2.3.4".toList := by
  decide +kernel
example : (read "1:2:3:4:5:6:7::".toList).map write = some "1:2:3:4:5:6:7:0".toList := by
  decide +kernel
example : ["01.2.3.4", "1:::2", "1.2.3.4::", "::1%1", "1::2::3", "12345::"].map
    (fun s => read s.toList) = List.replicate 6 none := by decide +kernel

end Address

end Floodgate
