import Floodgate.Text.Hexadecimal

/-!
# Request names

A request is named by a random universally unique identifier: sixteen bytes in lower-case
hexadecimal digits, six of whose bits tell that they are random.
-/

namespace Floodgate.Http

/-- The two digits of a byte. -/
def byteDigits (b : UInt8) : List Char :=
  [Hexadecimal.digitChar (b.toNat / 16), Hexadecimal.digitChar (b.toNat % 16)]

/-- The name made of sixteen random bytes. -/
def requestId (random : List UInt8) : String :=
  let bytes := random.mapIdx fun i b =>
    if i = 6 then b % 16 + 0x40 else if i = 8 then b % 64 + 0x80 else b
  let part (start length : Nat) := ((bytes.drop start).take length).flatMap byteDigits
  String.ofList (['-'].intercalate [part 0 4, part 4 2, part 6 2, part 8 2, part 10 6])

example : requestId (List.replicate 16 0xff) = "ffffffff-ffff-4fff-bfff-ffffffffffff" := by
  decide +kernel

end Floodgate.Http
