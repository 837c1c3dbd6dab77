import Reconciler.Value.Basic

/-!
# Metrics

What is counted: reconciliations, calls, retries, dropped events, drift and errors, each by labels.
-/

namespace Reconciler

/-- How a counted operation ended. -/
inductive Outcome where
  /-- It has begun. -/
  | started
  /-- It succeeded. -/
  | success
  /-- It failed. -/
  | error
deriving DecidableEq, Repr

/-- The name of an outcome. -/
def Outcome.text : Outcome → String
  | .started => "started"
  | .success => "success"
  | .error => "error"

/-- The other side of a call. -/
inductive Api where
  /-- The cluster. -/
  | cluster
  /-- A backend. -/
  | backend
deriving DecidableEq, Repr

/-- The name of the other side of a call. -/
def Api.text : Api → String
  | .cluster => "k8s"
  | .backend => "rest"

/-- A counted thing with its labels. -/
inductive Metric where
  /-- Reconciliations. -/
  | reconciliations (kind action : String) (outcome : Outcome)
  /-- Measured durations of reconciliations. -/
  | reconciliationTimes (kind action : String)
  /-- Events that are tried again. -/
  | requeues (kind : String)
  /-- Events that are given up. -/
  | drops (kind eventType : String)
  /-- Detected differences between external resources and the desired state. -/
  | drifts (kind : String)
  /-- Calls. -/
  | calls (api : Api) (operation : String) (outcome : Outcome)
  /-- Measured durations of calls. -/
  | callTimes (api : Api) (operation : String)
  /-- Errors of reconciliations. -/
  | errors (kind errorType : String)
deriving DecidableEq, Repr

namespace Metric

/-- The name under which a metric is published. -/
def name : Metric → String
  | .reconciliations .. => "reconcile_total"
  | .reconciliationTimes .. => "reconcile_duration_seconds_count"
  | .requeues _ => "requeues_total"
  | .drops .. => "events_dropped_total"
  | .drifts _ => "drift_detected_total"
  | .calls .. => "api_call_total"
  | .callTimes .. => "api_call_duration_seconds_count"
  | .errors .. => "error_total"

/-- The labels of a metric, in alphabetical order. -/
def labels : Metric → List (String × String)
  | .reconciliations kind action outcome =>
    [("action", action), ("kind", kind), ("result", outcome.text)]
  | .reconciliationTimes kind action => [("action", action), ("kind", kind)]
  | .requeues kind | .drifts kind => [("kind", kind)]
  | .drops kind eventType => [("event_type", eventType), ("kind", kind)]
  | .calls api operation outcome =>
    [("api_type", api.text), ("operation", operation), ("result", outcome.text)]
  | .callTimes api operation => [("api_type", api.text), ("operation", operation)]
  | .errors kind errorType => [("error_type", errorType), ("kind", kind)]

/-- What metrics are ordered by: the name, and then the values of the labels. -/
def orderKey (metric : Metric) : List String :=
  metric.name :: metric.labels.map Prod.snd

/-- A metric comes before another one, or has the same place. -/
def isAtMost (a b : Metric) : Bool :=
  !b.orderKey.lex a.orderKey fun s t => decide (s < t)

end Metric

/-- The counts of metrics, in the order in which they were first counted. -/
abbrev Counts := List (Metric × Nat)

namespace Counts

/-- The count of a metric. -/
def count (counts : Counts) (metric : Metric) : Nat :=
  (counts.lookup metric).getD 0

/-- The counts after a metric was counted once more. -/
def increment (metric : Metric) : Counts → Counts
  | [] => [(metric, 1)]
  | (m, n) :: rest => if m = metric then (m, n + 1) :: rest else (m, n) :: increment metric rest

/-- The counts in the order of their metrics, as a value. -/
def toValue (counts : Counts) : Value :=
  let ordered := counts.mergeSort fun a b => a.1.isAtMost b.1
  .list (ordered.map fun (metric, n) =>
    .list [.text metric.name, .ofFields (metric.labels.map fun (name, text) => (name, .text text)),
      .int n])

end Counts

end Reconciler
