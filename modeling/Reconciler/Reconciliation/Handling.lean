import Reconciler.Cluster.Client
import Reconciler.Cluster.Recorder
import Reconciler.Document.Condition
import Reconciler.Document.Metadata
import Reconciler.Reconciliation.Desk

/-!
# Handling documents

What all handlers of documents share: records in the log, writes of the document that take over the
version that the cluster answers, and actions that are counted and announced.
-/

namespace Reconciler

/-- What is done to the external resource of the document at hand. -/
structure Handler (ω : Type) where
  /-- Says whether the external resource exists; that it differs is a failure. -/
  observe : Reconcile ω Bool
  /-- Creates the external resource. -/
  create : Reconcile ω Unit
  /-- Updates the external resource. -/
  update : Reconcile ω Unit
  /-- Deletes the external resource. -/
  delete : Reconcile ω Unit

/-- The name of a handler, and the recorder by which it makes itself heard. -/
structure Handling where
  /-- The kind of documents that state none. -/
  defaultKind : String
  /-- The recorder. -/
  recorder : Recorder
deriving DecidableEq, Repr

namespace Handling

/-- The kind of a document, as it is counted. -/
def kindOf (handling : Handling) (doc : Document) : String :=
  Recorder.orText doc.kind handling.defaultKind

/-- The record of a step on a document. -/
def record (handling : Handling) (doc : Document) (message event reason : String) : LogRecord :=
  { controller := operatorName
    kind := handling.kindOf doc
    name := Recorder.orText doc.name "unknown"
    namespace_ := Recorder.orText doc.namespace_ "default"
    event
    reason
    message }

/-- The fields that tell about a failure. -/
def failureFields (failure : Failure) : Fields :=
  [(.text "error", .text failure.sanitized), (.text "error_type", .text failure.kind)]

/-- The event and reason that a record has unless it states others. -/
def defaultWords : Level → String × String
  | .debug => ("debug", "Debug")
  | .info => ("info", "Info")
  | .warning => ("warning", "Warning")
  | _ => ("error", "Error")

section

variable {ω : Type}

/-- Logs a step on the document at hand. -/
def logStep (handling : Handling) (level : Level) (message event reason : String)
    (additional : Fields) : Reconcile ω Unit := do
  let doc ← Desk.current
  report (·.logRecord level (handling.record doc message event reason) additional)

/-- Logs a step of use when a fault is searched. -/
def logDebug (handling : Handling) (message : String) (additional : Fields) : Reconcile ω Unit :=
  handling.logStep .debug message "debug" "Debug" additional

/-- Logs a failure after which the document at hand is given up all the same. -/
def logRelease (handling : Handling) (message : String) (failure : Failure) : Reconcile ω Unit :=
  handling.logStep .error message "delete" "Error" (failureFields failure)

end

variable {ω α : Type} [World ω]

/-- Writes the document at hand to the cluster. -/
def persist : Reconcile ω Unit := do
  let updated ← inSession (Cluster.update (← Desk.current))
  Desk.edit (Document.adoptVersion updated)

/-- Writes the observed state of the document at hand to the cluster, unless it is as before; says
whether it was written. -/
def persistStatus (before : Option Value) : Reconcile ω Bool := do
  let isKept ←
    match before with
    | none => pure false
    | some status => do
      pure ((Value.map (← ofExcept (← Desk.current).statusFields)).unchanged status)
  if isKept then pure false
  else
    let updated ← inSession (Cluster.updateStatus (← Desk.current))
    Desk.edit (Document.adoptVersion updated)
    pure true

/-- An action on the document at hand, which is announced unless it only looks, counted and timed. -/
def measured (handling : Handling) (action : String) (act : Reconcile ω α) : Reconcile ω α := do
  let doc ← Desk.current
  let kind := handling.kindOf doc
  if action != "observe" then inSession (handling.recorder.started doc action)
  count (.reconciliations kind action .started)
  let outcome ← attempt act
  match outcome with
  | .ok _ => count (.reconciliations kind action .success)
  | .error failure =>
    count (.errors kind failure.kind)
    count (.reconciliations kind action .error)
    handling.logDebug (action ++ " failed") (failureFields failure)
  count (.reconciliationTimes kind action)
  ofExcept outcome

/-- Writes the readiness of the document at hand. -/
def setReady (readiness : Readiness) : Reconcile ω Unit := do
  let now ← inSession Work.wallClock
  Desk.edit (Document.setReady readiness now)

/-- The document at hand is available, and waits for nothing. -/
def setAvailable : Reconcile ω Unit := do
  setReady .available
  Desk.edit Document.unsetFailedRef

/-- Lets the document at hand go: the operator's finalizer is removed and the document written. -/
def releaseDocument : Reconcile ω Unit := do
  if ← Desk.edit Document.removeFinalizer then persist

end Handling

end Reconciler
