import Floodgate.Http.Header
import Floodgate.Http.Target
import Floodgate.Json.Value
import Floodgate.Net.Socket

/-!
# Requests and responses

## Main definitions

* `Http.Request` — a method, a target, header fields and the peer's address if it is known
* `Http.Request.make` — a request of texts, or what about them cannot be sent
* `Http.Response` — a status, header fields and a body
-/

namespace Floodgate.Http

/-- A request. -/
structure Request where
  method : String
  target : Target
  fields : Fields
  peer : Option Socket
  deriving DecidableEq

/-- What about a request cannot be sent. -/
inductive RequestError where
  | method | target | field (part : FieldError)
  deriving DecidableEq, Repr

namespace Request

/-- The request of a method, a target and header fields given as texts. -/
def make (method target : String) (fields : List (String × String)) (peer : Option Socket) :
    Except RequestError Request := do
  if !isToken method then .error .method
  else match Target.read target with
    | none => .error .target
    | some target =>
      match fields.mapM (fun (name, value) => Field.make name value) with
      | .error part => .error (.field part)
      | .ok fields => .ok ⟨method, target, fields, peer⟩

/-- The method only asks for a resource. -/
def isRetrieval (r : Request) : Bool := r.method == "GET" || r.method == "HEAD"

end Request

/-- A response. -/
structure Response where
  status : UInt16
  fields : Fields
  body : String
  deriving DecidableEq

namespace Response

/-- A response without header fields and body. -/
def bare (status : UInt16) : Response := ⟨status, [], ""⟩

/-- A plain text. -/
def text (body : String) : Response :=
  ⟨200, [⟨"content-type", "text/plain; charset=utf-8"⟩], body⟩

/-- A JSON value. -/
def json (status : UInt16) (v : Json) : Response :=
  ⟨status, [⟨"content-type", "application/json"⟩], v.render⟩

/-- The response with a header field in place of all fields of that name. -/
def setField (r : Response) (name value : String) : Response :=
  { r with fields := r.fields.filter (·.name ≠ name) ++ [⟨name, value⟩] }

@[simp] theorem status_setField (r : Response) (name value : String) :
    (r.setField name value).status = r.status := rfl

@[simp] theorem body_setField (r : Response) (name value : String) :
    (r.setField name value).body = r.body := rfl

end Response

end Floodgate.Http
