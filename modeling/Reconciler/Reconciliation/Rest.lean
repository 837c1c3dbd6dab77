import Reconciler.Backend.Client
import Reconciler.Backend.Drift
import Reconciler.Cluster.Definition
import Reconciler.Cluster.Ownership
import Reconciler.Description.Loading
import Reconciler.Reconciliation.Handling

/-!
# Resources of a REST backend

The external resource behind a document is reached through the calls that its definition declares. It
is looked up by its identifiers when the observed state has one of them, and searched for otherwise.
-/

namespace Reconciler

/-- The setup of the handler of resources in a REST backend. -/
structure RestHandling where
  /-- What it shares with other handlers. -/
  handling : Handling
  /-- Where definitions come from. -/
  definitions : DefinitionSource
  /-- The seconds that an answer may take. -/
  timeout : Number
  /-- All requests are logged. -/
  logsRequests : Bool

namespace RestHandling

/-- The kind of documents that state none. -/
def defaultKind : String :=
  "RestResource"

/-- The setup with a source of definitions, without which there is no handler. -/
def ofSource (recorder : Recorder) (definitions : Option DefinitionSource) (timeout : Number)
    (logsRequests : Bool) : Except Failure RestHandling :=
  match definitions with
  | some definitions => .ok ⟨⟨defaultKind, recorder⟩, definitions, timeout, logsRequests⟩
  | none => .error (.configuration .noDefinitions)

variable {ω : Type} [World ω]

/-- The definition of the document at hand, whose owners are adopted, and a client of its backend. -/
def connect (rest : RestHandling) : Reconcile ω (Definition × Client) := do
  let definition ← inSession (Definition.resolve rest.definitions (← Desk.current))
  if !definition.descriptor.owners.isEmpty then
    let _ ← Ownership.adopt definition.descriptor.owners
  let description ← inSession (Description.loadOnce definition.url rest.timeout)
  let client ← ofExcept (Client.ofDescription description none definition.credentials rest.timeout
    (definition.isVerbose || rest.logsRequests))
  pure (definition, client)

/-- Makes a call with the fields of the document at hand. -/
def makeCall (client : Client) (call : Call) : Reconcile ω Value := do
  let doc ← Desk.current
  let status ← ofExcept doc.statusFields
  let spec ← ofExcept doc.specFields
  let request ← ofExcept (call.request status spec)
  inSession (client.performBound (.ofCall call) call.path request)

/-- The call that looks at the external resource, none when it cannot be searched for. -/
def lookup (rest : RestHandling) (client : Client) (descriptor : Descriptor) :
    Reconcile ω (Option Call) := do
  let isKnown ← ofExcept ((← Desk.current).hasIdentifier descriptor.identifiers)
  let action := if isKnown then Action.get else Action.findBy
  match Call.resolve client.description descriptor action with
  | .ok call => pure (some call)
  | .error (.unresolvedAction name kind) =>
    if isKnown then throw (.unresolvedAction name kind)
    rest.handling.logDebug "No findby action declared, external resource not created yet" []
    pure none
  | .error failure => throw failure

/-- The answer about the external resource, none when it does not exist. -/
def lookAt (rest : RestHandling) (client : Client) (call : Call) : Reconcile ω (Option Value) := do
  let doc ← Desk.current
  let status ← ofExcept doc.statusFields
  let spec ← ofExcept doc.specFields
  let request ← ofExcept (call.request status spec)
  match ← attempt (inSession (client.performBound (.ofCall call) call.path request)) with
  | .ok body => pure (some body)
  | .error failure =>
    if failure.isNotFound then
      rest.handling.logDebug "External resource not found"
        [(.text "action", .text call.action.text)]
      pure none
    else throw failure

/-- Tells everyone that the external resource differs, and fails. -/
def reportDrift (rest : RestHandling) (drifted : List String) : Reconcile ω Unit := do
  let doc ← Desk.current
  count (.drifts doc.kind)
  inSession (rest.handling.recorder.driftDetected doc drifted)
  rest.handling.logStep .info "External resource is not up to date" "drift" "DriftDetected"
    [(.text "fields", .texts drifted)]
  throw (.drift drifted)

/-- Compares the answer about the external resource with the document at hand. -/
def compare (rest : RestHandling) (descriptor : Descriptor) (call : Call) (body : Value) :
    Reconcile ω Unit := do
  let spec ← ofExcept (← Desk.current).specFields
  let drifted ← ofExcept
    (Drift.fields spec (body.fields?.getD []) descriptor.compared call.renames)
  if !drifted.isEmpty then rest.reportDrift drifted

/-- Looks whether the external resource exists and is as desired. -/
def observeResource (rest : RestHandling) : Reconcile ω Bool := do
  let (definition, client) ← rest.connect
  let before ← ofExcept (← Desk.current).statusFields
  match ← rest.lookup client definition.descriptor with
  | none => pure false
  | some call =>
    match ← rest.lookAt client call with
    | none => pure false
    | some body =>
      Desk.edit (Document.writeIdentifiers call.identifiers body)
      let _ ← Handling.persistStatus (some (.map before))
      rest.compare definition.descriptor call body
      let observed ← ofExcept (← Desk.current).statusFields
      Handling.setAvailable
      let _ ← Handling.persistStatus (some (.map observed))
      rest.handling.logDebug "External resource up to date" []
      pure true

/-- Creates the external resource. -/
def createResource (rest : RestHandling) : Reconcile ω Unit := do
  let (definition, client) ← rest.connect
  let before ← ofExcept (← Desk.current).statusFields
  let call ← ofExcept (Call.resolve client.description definition.descriptor .create)
  let spec ← ofExcept (← Desk.current).specFields
  let request ← ofExcept (call.request [] spec)
  let body ← inSession (client.performBound (.ofCall call) call.path request)
  Desk.edit (Document.writeIdentifiers call.identifiers body)
  Handling.setReady .creating
  let _ ← Handling.persistStatus (some (.map before))
  inSession (rest.handling.recorder.created (← Desk.current))
  rest.handling.logStep .info "External resource created" "create" "Created" []

/-- Updates the external resource. -/
def updateResource (rest : RestHandling) : Reconcile ω Unit := do
  let (definition, client) ← rest.connect
  let before ← ofExcept (← Desk.current).statusFields
  let call ← ofExcept (Call.resolve client.description definition.descriptor .update)
  let body ← makeCall client call
  Desk.edit (Document.writeIdentifiers call.identifiers body)
  let _ ← Handling.persistStatus (some (.map before))
  inSession (rest.handling.recorder.updated (← Desk.current))
  rest.handling.logStep .info "External resource updated" "update" "Updated" []

/-- Asks the backend to delete the external resource. -/
def removeResource (rest : RestHandling) : Reconcile ω Unit := do
  let (definition, client) ← rest.connect
  let call ← ofExcept (Call.resolve client.description definition.descriptor .delete)
  let _ ← makeCall client call
  inSession (rest.handling.recorder.deleted (← Desk.current))
  rest.handling.logStep .info "External resource deleted" "delete" "Deleted" []

/-- Deletes the external resource. A failure of the backend does not hold the document back. -/
def deleteResource (rest : RestHandling) : Reconcile ω Unit := do
  match ← attempt rest.removeResource with
  | .ok () => pure ()
  | .error failure =>
    if failure.isOperator || failure.isCluster then
      rest.handling.logRelease "Deleting external resource failed, releasing finalizer" failure
    else throw failure
  Handling.releaseDocument

/-- The handler of resources in a REST backend. -/
def handler (rest : RestHandling) : Handler ω where
  observe := rest.handling.measured "observe" rest.observeResource
  create := rest.handling.measured "create" rest.createResource
  update := rest.handling.measured "update" rest.updateResource
  delete := rest.handling.measured "delete" rest.deleteResource

end RestHandling

end Reconciler
