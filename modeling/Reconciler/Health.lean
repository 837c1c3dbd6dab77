import Reconciler.Json.Writer

/-!
# The health endpoint

What the process answers to those who watch over it: that it is alive, whether it is ready, and under
every other path its metrics. Readiness is looked at only when it is asked for.
-/

namespace Reconciler

/-- What is asked of the health endpoint. -/
inductive Probe where
  /-- Whether the process is alive. -/
  | alive
  /-- Whether the process is ready for work. -/
  | ready
  /-- The metrics. -/
  | metrics
deriving DecidableEq, Repr

/-- What a path asks for. -/
def Probe.ofPath (path : String) : Probe :=
  if path == "/healthz" then .alive
  else if path == "/readyz" then .ready
  else .metrics

/-- How the process is. -/
inductive Health where
  /-- It is alive. -/
  | alive
  /-- It is ready for work. -/
  | ready
  /-- It is not ready for work. -/
  | notReady
deriving DecidableEq, Repr

namespace Health

/-- The state as it is written. -/
def text : Health → String
  | .alive => "ok"
  | .ready => "ready"
  | .notReady => "not ready"

/-- The status of an answer with metrics, or about a good state. -/
def okStatus : String :=
  "200 OK"

/-- The status of the answer with its reason. -/
def status : Health → String
  | .alive | .ready => okStatus
  | .notReady => "503 SERVICE UNAVAILABLE"

/-- The media type of the answer. -/
def mediaType : String :=
  "application/json"

/-- The body of the answer, which is left out when only its head is asked for. -/
def body (health : Health) (method : String) : String :=
  if method == "HEAD" then ""
  else "\x7b\"status\":" ++ Json.string true health.text ++ "\x7d"

/-- How the process is, as a path asks for it; none when it asks for metrics. Without a check the
process is ready. -/
def probe {m : Type → Type} [Monad m] (check : Option (m Bool)) : Probe → m (Option Health)
  | .alive => pure (some .alive)
  | .ready =>
    match check with
    | none => pure (some .ready)
    | some check => do pure (some (if ← check then .ready else .notReady))
  | .metrics => pure none

end Health

end Reconciler
