import Floodgate.Edge.Gateway
import Floodgate.Proofs.Json.Members

/-!
# Bodies of error answers, written and read

What an error answer tells is one JSON object, whatever texts have gone into it, and the object is
read as the very body that was written. So no path, method, panic, fault of the system or setting
can put a member into the answer or change another one. The body has the status that its answer
has.

## Main definitions

* `ErrorBody.IsToldBy`, `RouteErrorBody.IsToldBy` — a response tells just this body

## Main results

* `ErrorBody.isToldBy_json`, `RouteErrorBody.isToldBy_json` — a body is told by its JSON
* `Edge.errors_told` — what the error answers of the gate tell
-/

namespace Floodgate

open Json

/-! ### Failures -/

namespace ErrorBody

/-- The response tells just this body: its text is an object with the status, the message and,
where there is one, the detail, it is read as the body, and it is sent with the body's status. -/
structure IsToldBy (b : ErrorBody) (response : Http.Response) : Prop where
  spells : ∃ status message, status = Decimal.digits b.status.toNat ∧
    SpellsText message b.message ∧
    match b.detail with
    | none => SpellsObject response.body.toList [("status", status), ("message", message)]
    | some d => ∃ detail, SpellsText detail d ∧ SpellsObject response.body.toList
        [("status", status), ("message", message), ("error", detail)]
  read_eq : readJson response.body = .ok b
  status_eq : response.status = b.status

/-- A body is told by its JSON. -/
theorem isToldBy_json (b : ErrorBody) : b.IsToldBy (.json b.status b.json) := by
  obtain ⟨status, message, detail⟩ := b
  -- The first two members are there in any case.
  have start {rest : List (String × List Char)} {d : Draft}
      (takes : record.TakesAll { status := some status, message := some message } rest d) :
      record.TakesAll {} (("status", Decimal.digits status.toNat) ::
        ("message", writeText message) :: rest) d :=
    .cons (Record.takes_ofReader rfl rfl (reads_digits status) rfl) <|
    .cons (Record.takes_ofReader rfl rfl (spellsText_writeText message).reads_readString rfl) takes
  cases detail with
  | none =>
    have spells : SpellsObject (json ⟨status, message, none⟩).render.toList (writtenMembers _) :=
      spellsObject_render (by simp [isValue_text, isValue_natural])
    simp only [writtenMembers, write, List.map] at spells
    constructor
    · exact ⟨_, _, rfl, spellsText_writeText message, spells⟩
    · exact Record.read_eq_of_takesAll spells (start .nil) rfl
    · rfl
  | some detail =>
    have spells : SpellsObject (json ⟨status, message, detail⟩).render.toList (writtenMembers _) :=
      spellsObject_render (by simp [isValue_text, isValue_natural])
    simp only [writtenMembers, write, List.map] at spells
    have last : record.Takes { status := some status, message := some message }
        ("error", writeText detail)
        { status := some status, message := some message, detail := some (some detail) } :=
      Record.takes_ofReader rfl rfl (spellsText_writeText detail).reads_readOptionalString rfl
    constructor
    · exact ⟨_, _, rfl, spellsText_writeText message, _, spellsText_writeText detail, spells⟩
    · exact Record.read_eq_of_takesAll spells (start (.cons last .nil)) rfl
    · rfl

end ErrorBody

/-! ### Paths and methods that are not served -/

namespace RouteErrorBody

/-- The response tells just this body: its text is an object of the four members, it is read as
the body, and it is sent with the body's status. -/
structure IsToldBy (b : RouteErrorBody) (response : Http.Response) : Prop where
  spells : ∃ error status message path, SpellsText error b.error ∧
    status = Decimal.digits b.status.toNat ∧ SpellsText message b.message ∧
    SpellsText path b.path ∧ SpellsObject response.body.toList
      [("error", error), ("status_code", status), ("message", message), ("path", path)]
  read_eq : readJson response.body = .ok b
  status_eq : response.status = b.status

/-- A body is told by its JSON. -/
theorem isToldBy_json (b : RouteErrorBody) : b.IsToldBy (.json b.status b.json) := by
  have spells : SpellsObject b.json.render.toList (writtenMembers _) :=
    spellsObject_render (by simp [isValue_text, isValue_natural])
  simp only [writtenMembers, write, List.map] at spells
  have error := spellsText_writeText b.error
  have message := spellsText_writeText b.message
  have path := spellsText_writeText b.path
  constructor
  · exact ⟨_, _, _, _, error, rfl, message, path, spells⟩
  · exact Record.read_eq_of_takesAll spells
      (.cons (Record.takes_ofReader rfl rfl error.reads_readString rfl) <|
      .cons (Record.takes_ofReader rfl rfl (reads_digits b.status) rfl) <|
      .cons (Record.takes_ofReader rfl rfl message.reads_readString rfl) <|
      .cons (Record.takes_ofReader rfl rfl path.reads_readString rfl) .nil) rfl
  · rfl

-- A path that would end its own string and go on with another member stays a path.
example : (json ⟨"", 404, "", "\",\"path\":\"/"⟩).render =
    "\x7b\"error\":\"\",\"status_code\":404,\"message\":\"\"," ++
      "\"path\":\"\\\",\\\"path\\\":\\\"/\"\x7d" := by decide +kernel

end RouteErrorBody

/-! ### Error answers of the gate -/

/-- Every error answer of the gate tells just the body that is meant for it, with the texts of
others in it as they are: path and method of a request that is not served, the wording of a
setting or system that failed, the detail of a failure, what a panic said. Only a request that is
refused is answered without a detail; an empty one is told as an empty one. -/
theorem Edge.errors_told :
    (∀ path : String, RouteErrorBody.IsToldBy
      ⟨"Not Found", 404, "The requested resource was not found", path⟩
      (gateway.unknownPath path)) ∧
    (∀ method path : String, RouteErrorBody.IsToldBy
      ⟨"Method Not Allowed", 405, "Method " ++ method ++ " is not allowed for this resource", path⟩
      (gateway.wrongMethod method path)) ∧
    (∀ e : InvalidSetting, ErrorBody.IsToldBy
      ⟨500, "Internal server error",
        some ("Configuration error: " ++ ("invalid value for `" ++ e.field ++ "`: " ++ e.reason))⟩
      (Failure.setting e).response) ∧
    (∀ message : String, ErrorBody.IsToldBy
      ⟨500, "Internal server error", some ("I/O error: " ++ message)⟩
      (Failure.system message).response) ∧
    ErrorBody.IsToldBy ⟨429, "Rate limit exceeded", none⟩ Failure.limited.response ∧
    (∀ detail : String, ErrorBody.IsToldBy ⟨500, "Internal server error", some detail⟩
      (Failure.internal detail).response) ∧
    (∀ said : String, ErrorBody.IsToldBy ⟨500, "Internal server error", some ("panic: " ++ said)⟩
      (panicResponse ⟨some said⟩)) ∧
    ErrorBody.IsToldBy ⟨500, "Internal server error", some "panic: unknown panic"⟩
      (panicResponse ⟨none⟩) := by
  refine ⟨?_, ?_, ?_, ?_, ?_, ?_, ?_, ?_⟩
  · intro path
    exact (RouteErrorBody.notFound path).isToldBy_json
  · intro method path
    exact (RouteErrorBody.methodNotAllowed method path).isToldBy_json
  · intro e
    exact (Failure.setting e).body.isToldBy_json
  · intro message
    exact (Failure.system message).body.isToldBy_json
  · exact Failure.limited.body.isToldBy_json
  · intro detail
    exact (Failure.internal detail).body.isToldBy_json
  · intro said
    exact (Failure.internal ("panic: " ++ said)).body.isToldBy_json
  · exact (Failure.internal "panic: unknown panic").body.isToldBy_json

end Floodgate
