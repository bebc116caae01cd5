import Floodgate.Http.Message
import Floodgate.Text.Blank

/-!
# Messages on a connection

The head of a request is a line with method, target and protocol, then a line for each header
field, then an empty line. A response is written in the same way and ends with its connection.

## Main definitions

* `Http.splitHead` — the lines of a head that is complete
* `Http.Request.ofHead` — the request of a head's lines
* `Http.Response.wire` — the text of a response
-/

namespace Floodgate.Http

/-- The lines of a text up to its first empty line; `none` when there is no such line. -/
def splitHead (text : List Char) : Option (List (List Char)) :=
  let lines := (splitOn '\n' text).map fun line =>
    if line.getLast? = some '\r' then line.dropLast else line
  let head := lines.takeWhile (!·.isEmpty)
  if head.length + 1 < lines.length then some head else none

/-- Name and value of a field's line. -/
def splitField (line : List Char) : String × String :=
  let name := line.takeWhile (· ≠ ':')
  (String.ofList name, String.ofList (trimBlanks (line.drop (name.length + 1))))

/-- The request of the lines of a head; `none` when the first line is no request line. -/
def Request.ofHead (lines : List (List Char)) (peer : Option Socket) : Option Request :=
  match lines with
  | [] => none
  | line :: fields =>
    match splitOn ' ' line with
    | [method, target, protocol] =>
      if "HTTP/1.".toList.isPrefixOf protocol then
        (Request.make (String.ofList method) (String.ofList target) (fields.map splitField)
          peer).toOption
      else none
    | _ => none

/-- What a status code is called. -/
def reason (status : UInt16) : String :=
  match status.toNat with
  | 200 => "OK"
  | 400 => "Bad Request"
  | 404 => "Not Found"
  | 405 => "Method Not Allowed"
  | 408 => "Request Timeout"
  | 429 => "Too Many Requests"
  | 500 => "Internal Server Error"
  | _ => "Unknown"

/-- The text of a response that ends its connection. -/
def Response.wire (r : Response) : String :=
  let fields := r.fields ++ [⟨"connection", "close"⟩]
  "HTTP/1.1 " ++ Decimal.text r.status.toNat ++ " " ++ reason r.status ++ "\r\n" ++
    String.join (fields.map fun f => f.name ++ ": " ++ f.value ++ "\r\n") ++ "\r\n" ++ r.body

example : (Request.ofHead ["GET /ready?a HTTP/1.1".toList, "X-Real-IP:  ::1 ".toList] none).map
    (fun r => (r.target, r.fields)) = some (⟨"/ready", "a"⟩, [⟨"x-real-ip", "::1"⟩]) := by
  decide +kernel

end Floodgate.Http
