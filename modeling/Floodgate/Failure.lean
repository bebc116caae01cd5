import Floodgate.Body.Error
import Floodgate.Validation

/-!
# Failures

What can go wrong in the gate, what is said of it, and the answer that a client gets.

## Main definitions

* `Failure` — the kinds of failure
* `Failure.message` — the wording for the operator
* `Failure.status`, `Failure.body` — the answer to the client
-/

namespace Floodgate

/-- Something that went wrong. -/
inductive Failure where
  /-- A setting cannot be used. -/
  | setting (e : InvalidSetting)
  /-- The system refused an operation. -/
  | system (message : String)
  /-- A request was refused by the limiter. -/
  | limited
  /-- The gate itself failed. -/
  | internal (detail : String)
  deriving DecidableEq

namespace Failure

/-- What is said of the failure. -/
def message : Failure → String
  | setting e => "Configuration error: " ++ e.message
  | system message => "I/O error: " ++ message
  | limited => "Rate limit exceeded"
  | internal detail => "Internal server error: " ++ detail

/-- The status code of the answer. -/
def status : Failure → UInt16
  | limited => 429
  | _ => 500

/-- The body of the answer. A failure of the gate is told by its detail alone, the others by
their whole message. -/
def body (f : Failure) : ErrorBody :=
  match f with
  | limited => ⟨f.status, "Rate limit exceeded", none⟩
  | internal detail => ⟨f.status, "Internal server error", some detail⟩
  | _ => ⟨f.status, "Internal server error", some f.message⟩

end Failure

end Floodgate
