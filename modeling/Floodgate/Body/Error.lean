import Floodgate.Json.Record
import Floodgate.Json.Value

/-!
# Bodies of error answers

## Main definitions

* `ErrorBody` — a status, a message and perhaps a detail
* `RouteErrorBody` — the answer for a path or method that is not served
* `ErrorBody.json`, `ErrorBody.readJson` and the same for `RouteErrorBody` — to JSON and back
-/

namespace Floodgate

/-- The body of an error answer. Without a detail its member is left out. -/
structure ErrorBody where
  status : UInt16
  message : String
  detail : Option String
  deriving DecidableEq

/-- The body as a JSON object. -/
def ErrorBody.json (b : ErrorBody) : Json :=
  .object (("status", .natural b.status.toNat) :: ("message", .text b.message) ::
    match b.detail with
    | some detail => [("error", .text detail)]
    | none => [])

namespace ErrorBody

/-- A body of which some parts are known. The detail may be known to be missing. -/
structure Draft where
  status : Option UInt16 := none
  message : Option String := none
  detail : Option (Option String) := none

/-- The members of an error body. -/
def record : Json.Record Draft ErrorBody where
  name := "ErrorResponse"
  blank := {}
  slots := [
    .ofReader "status" Json.readUInt16 Draft.status fun v d => { d with status := some v },
    .ofReader "message" Json.readString Draft.message fun v d => { d with message := some v },
    .ofReader "error" Json.readOptionalString Draft.detail
      fun v d => { d with detail := some v }]
  finish d := do
    .ok ⟨← Json.required "status" d.status, ← Json.required "message" d.message,
      d.detail.getD none⟩

/-- The body that a JSON text stands for. -/
def readJson (text : String) : Except Json.Fault ErrorBody := record.read text

end ErrorBody

/-- The body of an answer for a path or method that is not served. -/
structure RouteErrorBody where
  error : String
  status : UInt16
  message : String
  path : String
  deriving DecidableEq

namespace RouteErrorBody

/-- No route has this path. -/
def notFound (path : String) : RouteErrorBody :=
  ⟨"Not Found", 404, "The requested resource was not found", path⟩

/-- The route of this path does not serve this method. -/
def methodNotAllowed (method path : String) : RouteErrorBody :=
  ⟨"Method Not Allowed", 405, "Method " ++ method ++ " is not allowed for this resource", path⟩

/-- The body as a JSON object. -/
def json (b : RouteErrorBody) : Json :=
  .object [("error", .text b.error), ("status_code", .natural b.status.toNat),
    ("message", .text b.message), ("path", .text b.path)]

/-- A body of which some parts are known. -/
structure Draft where
  error : Option String := none
  status : Option UInt16 := none
  message : Option String := none
  path : Option String := none

/-- The members of a route error body. -/
def record : Json.Record Draft RouteErrorBody where
  name := "RouteErrorResponse"
  blank := {}
  slots := [
    .ofReader "error" Json.readString Draft.error fun v d => { d with error := some v },
    .ofReader "status_code" Json.readUInt16 Draft.status fun v d => { d with status := some v },
    .ofReader "message" Json.readString Draft.message fun v d => { d with message := some v },
    .ofReader "path" Json.readString Draft.path fun v d => { d with path := some v }]
  finish d := do
    .ok ⟨← Json.required "error" d.error, ← Json.required "status_code" d.status,
      ← Json.required "message" d.message, ← Json.required "path" d.path⟩

/-- The body that a JSON text stands for. -/
def readJson (text : String) : Except Json.Fault RouteErrorBody := record.read text

end RouteErrorBody

end Floodgate
