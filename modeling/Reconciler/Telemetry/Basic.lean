import Reconciler.Telemetry.Log
import Reconciler.Telemetry.Metric
import Reconciler.Telemetry.Span

/-!
# Telemetry

What a program reports about itself: log lines, counts and spans. Nothing that is decided depends on
it.
-/

namespace Reconciler

/-- What a program has reported about itself. -/
structure Telemetry where
  /-- The least level that is logged. -/
  threshold : Level
  /-- The log lines in order. -/
  lines : List LogLine
  /-- The counts. -/
  counts : Counts
  /-- The spans. -/
  tracer : Tracer
  /-- The event that is being processed. -/
  scope : Option Scope

namespace Telemetry

/-- Telemetry without reports. -/
def start (threshold : Level) (traces : Bool) : Telemetry :=
  ⟨threshold, [], [], .start traces, none⟩

/-- The telemetry after a line was logged. -/
def log (telemetry : Telemetry) (level : Level) (text : String) : Telemetry :=
  if level.reaches telemetry.threshold then
    { telemetry with lines := telemetry.lines ++ [⟨level, text⟩] }
  else telemetry

/-- The telemetry after a step of a reconciliation was logged. -/
def logRecord (telemetry : Telemetry) (level : Level) (record : LogRecord) (additional : Fields) :
    Telemetry :=
  telemetry.log level (record.line telemetry.scope additional)

/-- The telemetry after a metric was counted. -/
def count (telemetry : Telemetry) (metric : Metric) : Telemetry :=
  { telemetry with counts := telemetry.counts.increment metric }

end Telemetry

end Reconciler
