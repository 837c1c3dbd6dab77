import Reconciler.Chart.Manifest
import Reconciler.Reconciliation.Handling

/-!
# Resources of a chart

The external resource behind a document is a release of a chart, whose values are the desired state.
The document is available when every object of the rendered manifest is.
-/

namespace Reconciler

/-- The setup of the handler of charts. -/
structure ChartHandling where
  /-- What it shares with other handlers. -/
  handling : Handling
deriving DecidableEq, Repr

namespace ChartHandling

/-- The setup with a recorder. -/
def ofRecorder (recorder : Recorder) : ChartHandling :=
  ⟨⟨"ChartResource", recorder⟩⟩

variable {ω : Type} [World ω]

/-- The release of a document. -/
def releaseOf (doc : Document) : Work ω Release := do
  pure ⟨← Work.chart (.info doc), doc.name, doc.namespace_⟩

/-- The coordinates of the kind that a reference names. -/
def kindOf (ref : ObjectRef) : Except Failure GroupVersionKind :=
  match parseApiVersion ref.apiVersion with
  | .ok (group, version) => .ok ⟨group, version, ref.kind⟩
  | .error fault => .error (.version fault)

/-- Succeeds when the object that a reference names exists and is available. -/
def checkObject (ref : ObjectRef) : Work ω Unit := do
  let resource ← Cluster.resourceOf (← ofExcept (kindOf ref))
  match ← attempt (Cluster.read resource ref.namespace_ ref.name) with
  | .ok object =>
    match object.checkAvailable with
    | .ok () => pure ()
    | .error (.notAvailable _ reason) => throw (.notAvailable (some ref) reason)
    | .error failure => throw failure
  | .error failure =>
    throw (if failure.isAbsent then .notAvailable (some ref) "object not found" else failure)

/-- The reference, in the namespace of the release unless it names one. -/
def placed (release : Release) (ref : ObjectRef) : ObjectRef :=
  if ref.namespace_.isEmpty then { ref with namespace_ := release.namespace_ } else ref

/-- The first of several objects that is not available, and the failure that says why. -/
def firstUnavailable : List ObjectRef → Work ω (Option (ObjectRef × Failure))
  | [] => pure none
  | ref :: rest => do
    match ← attempt (checkObject ref) with
    | .ok () => firstUnavailable rest
    | .error (.notAvailable about reason) => pure (some (ref, .notAvailable about reason))
    | .error failure => throw failure

/-- The release exists. -/
def hasRelease (release : Release) : Work ω Bool := do
  match ← attempt (Work.chart (.find release.name release.namespace_)) with
  | .ok () => pure true
  | .error (.releaseNotFound _) => pure false
  | .error failure => throw failure

/-- Looks whether the release exists and its objects are available. -/
def observeRelease (chart : ChartHandling) : Reconcile ω Bool := do
  let release ← inSession (releaseOf (← Desk.current))
  if !(← inSession (hasRelease release)) then
    chart.handling.logDebug "Release not found" []
    return false
  let before ← ofExcept (← Desk.current).statusFields
  let values ← ofExcept (← Desk.current).specFields
  let manifest ← inSession (Work.chart (.render release values))
  let refs ← ofExcept (Manifest.refsOfBytes manifest)
  match ← inSession (firstUnavailable (refs.map (placed release))) with
  | some (ref, failure) =>
    Desk.edit (Document.setFailedRef ref)
    Handling.setReady { Readiness.unavailable with message := failure.message }
    let _ ← Handling.persistStatus (some (.map before))
    chart.handling.logStep .info ("Object " ++ ref.text ++ " not available") "info" "Unavailable" []
  | none =>
    Handling.setAvailable
    let _ ← Handling.persistStatus (some (.map before))
  pure true

/-- Installs the release, or upgrades it. -/
def installRelease : Reconcile ω Unit := do
  let doc ← Desk.current
  let release ← inSession (releaseOf doc)
  let values ← ofExcept doc.specFields
  inSession (Work.chart (.install release values))

/-- Removes the release. -/
def removeRelease (chart : ChartHandling) : Reconcile ω Unit := do
  let doc ← Desk.current
  inSession (Work.chart (.uninstall (← inSession (releaseOf doc))))
  inSession (chart.handling.recorder.deleted doc)

/-- Removes the release. A failure to do so does not hold the document back. -/
def deleteRelease (chart : ChartHandling) : Reconcile ω Unit := do
  match ← attempt chart.removeRelease with
  | .ok () => pure ()
  | .error failure =>
    if failure.isOperator || failure.isCluster then
      chart.handling.logRelease "Uninstalling release failed, releasing finalizer" failure
    else throw failure
  Handling.releaseDocument

/-- The handler of charts. -/
def handler (chart : ChartHandling) : Handler ω where
  observe := chart.handling.measured "observe" chart.observeRelease
  create := do
    chart.handling.measured "create" installRelease
    inSession (chart.handling.recorder.created (← Desk.current))
  update := do
    chart.handling.measured "update" installRelease
    inSession (chart.handling.recorder.updated (← Desk.current))
  delete := chart.handling.measured "delete" chart.deleteRelease

end ChartHandling

end Reconciler
