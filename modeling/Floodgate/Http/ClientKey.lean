import Floodgate.Http.Message
import Floodgate.Text.Blank

/-!
# Client keys

The name under which a request is charged: an address in canonical form, so that one client has
one key however its address is written. The first hop of the forwarding field comes first, then
the field of the real address, then the peer. A field that does not hold an address is passed
over.

## Main definitions

* `Http.addressOf` — the address in a field's text, blanks around it dropped
* `Http.Request.source` — the address that decides
* `Http.Request.clientKey` — the key
-/

namespace Floodgate.Http

/-- The address that a text holds between blanks. -/
def addressOf (text : List Char) : Option Address := Address.read (trimBlanks text)

namespace Request

/-- The address of the first forwarding hop. -/
def forwarded (r : Request) : Option Address :=
  (r.fields.readable? "x-forwarded-for").bind fun value =>
    addressOf (value.toList.takeWhile (· ≠ ','))

/-- The real address that a proxy tells. -/
def realAddress (r : Request) : Option Address :=
  (r.fields.readable? "x-real-ip").bind fun value => addressOf value.toList

/-- The address that a request is taken to come from. -/
def source (r : Request) : Option Address :=
  r.forwarded.or (r.realAddress.or (r.peer.map Socket.address))

/-- The name under which a request is charged. -/
def clientKey (r : Request) : String :=
  match r.source with
  | some a => a.text
  | none => "unknown"

end Request

end Floodgate.Http
