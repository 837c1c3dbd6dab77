import Reconciler.Value.Access

/-!
# Reports of failures

What is reported of a failure, and the structured error that a backend's answer may hold.
-/

namespace Reconciler

/-- A status as a value. -/
def statusValue (status : Option Int) : Value :=
  (status.map Value.int).getD .null

namespace Failure

/-- The named details of a failure. -/
def details : Failure → List (String × Value)
  | .unresolvedAction action kind =>
    [("action", .text action), ("kind", (kind.map Value.text).getD .null)]
  | .operationNotFound method path | .noSuccessCode method path =>
    [("method", .text method), ("path", .text path)]
  | .missingField field owner => [("field", .text field), ("where", .text owner)]
  | .transport _ status => [("status_code", statusValue status)]
  | .backend error =>
    [("status_code", statusValue error.status), ("type_key", .text error.typeKey),
      ("error_code", .int error.errorCode), ("event_id", .int error.eventId)]
  | .drift fields => [("fields", .texts fields)]
  | .fieldNotFound path | .fieldType path .. => [("path", .texts path)]
  | .notAvailable ref reason =>
    [("reason", .text reason), ("failed_object_ref", (ref.map ObjectRef.toValue).getD .null)]
  | _ => []

/-- What is reported of a failure: its kind, and its message and details where they are its own. -/
def report (failure : Failure) : List (String × Value) :=
  let message := ("message", Value.text failure.summary)
  ("error", Value.text failure.kind) ::
    match failure with
    | .cluster status reason => [("status", statusValue status), ("reason", .text reason)]
    | .version _ | .nothingToSet | .absentClient _ | .invalid _ | .impossible _ | .other _ =>
      [message]
    | failure =>
      if !failure.isOperator then []
      else if failure.details.isEmpty then [message]
      else [message, ("attrs", .ofFields failure.details)]

end Failure

namespace BackendError

/-- The number under a name in a structured error, zero when it is absent or empty. -/
def number (body : Fields) (name : String) : Except Failure Int :=
  (((body.get? name).getD .null).orElse (.int 0)).whole

/-- The structured error that the body of an answer holds: a map with a text for a message and
numbers that can be read. -/
def ofBody (status : Int) (body : Value) : Except Failure (Option BackendError) :=
  match body with
  | .map fields =>
    match Fields.get? fields "message" with
    | some (.text text) =>
      let numbers := do
        let code ← number fields "errorCode"
        let event ← number fields "eventId"
        pure (code, event)
      match numbers with
      | .ok (code, event) =>
        let typeKey := (((Fields.get? fields "typeKey").getD .null).orElse (.text "")).plain
        .ok (some ⟨some status, text, typeKey, code, event⟩)
      | .error (.shape .infiniteWhole) => .error (.shape .infiniteWhole)
      | .error _ => .ok none
    | _ => .ok none
  | _ => .ok none

end BackendError

end Reconciler
