import Reconciler.Redaction
import Reconciler.Session

/-!
# The recorder

Notices about reconciled resources, for those who look at them in the cluster. A refusal of the
cluster is logged and does not disturb the work.
-/

namespace Reconciler

/-- A recorder of notices. -/
structure Recorder where
  /-- The component in whose name notices are posted. -/
  component : String
  /-- Notices are posted. -/
  isEnabled : Bool
deriving DecidableEq, Repr

/-- The name under which the operator acts. -/
def operatorName : String :=
  "rest-dynamic-operator"

namespace Recorder

/-- The most characters that the message of a notice has. -/
def messageLimit : Nat :=
  1024

/-- The recorder of the operator. -/
def standard (isEnabled : Bool) : Recorder :=
  ⟨operatorName, isEnabled⟩

/-- The text in front, or another one in the place of an empty one. -/
def orText (text other : String) : String :=
  if text.isEmpty then other else text

/-- A notice about a document. -/
def notice (recorder : Recorder) (doc : Document) (reason message type : String) : Notice :=
  { namespace_ := orText doc.namespace_ "default"
    about := doc.ref
    uid := orText doc.uid doc.originUid
    reason
    message := String.ofList ((Redaction.redactText message).toList.take messageLimit)
    type
    component := recorder.component }

variable {ω : Type} [World ω]

/-- Posts a notice about a document. -/
def emit (recorder : Recorder) (doc : Document) (reason message type : String) : Work ω Unit := do
  if recorder.isEnabled then
    match ← attempt (Work.cluster (.post (recorder.notice doc reason message type))) with
    | .ok () => pure ()
    | .error (.cluster status text) =>
      log .warning ("Failed to record event " ++ reason ++ " for " ++ doc.ref.text ++ ": " ++
        Failure.statusText status ++ " " ++ text)
    | .error failure => throw failure

/-- The type of a notice about a step that went as it should. -/
def normal : String :=
  "Normal"

/-- The type of a notice that may need attention. -/
def warning : String :=
  "Warning"

/-- A reconciliation has begun. -/
def started (recorder : Recorder) (doc : Document) (action : String) : Work ω Unit :=
  recorder.emit doc "ReconcileStarted" ("Reconciliation started: " ++ action) normal

/-- A reconciliation has failed. -/
def failed (recorder : Recorder) (doc : Document) (message : String) : Work ω Unit :=
  recorder.emit doc "ReconcileFailed" message warning

/-- The external resource was created. -/
def created (recorder : Recorder) (doc : Document) : Work ω Unit :=
  recorder.emit doc "ExternalResourceCreated" ("External resource for " ++ doc.name ++ " created")
    normal

/-- The external resource was updated. -/
def updated (recorder : Recorder) (doc : Document) : Work ω Unit :=
  recorder.emit doc "ExternalResourceUpdated" ("External resource for " ++ doc.name ++ " updated")
    normal

/-- The external resource was deleted. -/
def deleted (recorder : Recorder) (doc : Document) : Work ω Unit :=
  recorder.emit doc "ExternalResourceDeleted" ("External resource for " ++ doc.name ++ " deleted")
    normal

/-- The external resource differs from the desired state. -/
def driftDetected (recorder : Recorder) (doc : Document) (fields : List String) : Work ω Unit :=
  recorder.emit doc "DriftDetected" ("External resource differs in: " ++ ", ".intercalate fields)
    warning

end Recorder

end Reconciler
