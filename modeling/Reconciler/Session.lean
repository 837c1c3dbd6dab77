import Reconciler.Cache
import Reconciler.Description.Operation
import Reconciler.Telemetry.Basic
import Reconciler.World

/-!
# Sessions

Work in a session may fail, asks the world outside, and reports about itself. What was done before a
failure stays done. Work with a larger state than a session, such as a document at hand, includes work
in the session.
-/

namespace Reconciler

/-- What became of a computation; the computation that says so does not fail. -/
def attempt {ε σ α : Type} (act : EStateM ε σ α) : EStateM ε σ (Except ε α) := fun s =>
  match act s with
  | .ok a s => .ok (.ok a) s
  | .error e s => .ok (.error e) s

/-- A computation on a part of the state. -/
def within {ε σ τ α : Type} (part : τ → σ) (withPart : σ → τ → τ) (act : EStateM ε σ α) :
    EStateM ε τ α := fun t =>
  match act (part t) with
  | .ok a s => .ok a (withPart s t)
  | .error e s => .error e (withPart s t)

/-- The means that a session was given. -/
structure Means where
  /-- Kinds can be discovered, and objects of the core group read. -/
  discovers : Bool
  /-- Secrets can be read. -/
  readsSecrets : Bool
deriving DecidableEq, Repr

/-- A session of work. -/
structure Session (ω : Type) where
  /-- The world outside. -/
  world : ω
  /-- What was reported. -/
  telemetry : Telemetry
  /-- The means that the session was given. -/
  means : Means
  /-- The loaded API descriptions. -/
  descriptions : Cache Description Number
  /-- The resource descriptor that was read from its file. -/
  descriptor : Option Descriptor

/-- Work in a session. -/
abbrev Work (ω : Type) := EStateM Failure (Session ω)

/-- States that hold a session. -/
class InSession (σ : Type) (ω : outParam Type) where
  /-- The session. -/
  session : σ → Session ω
  /-- The state with another session. -/
  withSession : Session ω → σ → σ

instance {ω : Type} : InSession (Session ω) ω where
  session s := s
  withSession s _ := s

section

variable {σ ω α : Type} [InSession σ ω]

/-- Work in the session that a state holds. -/
def inSession (work : Work ω α) : EStateM Failure σ α :=
  within InSession.session InSession.withSession work

/-- Changes what was reported. -/
def report (change : Telemetry → Telemetry) : EStateM Failure σ Unit :=
  inSession (modify fun session => { session with telemetry := change session.telemetry })

/-- What was reported. -/
def telemetry : EStateM Failure σ Telemetry :=
  inSession (do pure (← get).telemetry)

/-- Logs a line. -/
def log (level : Level) (text : String) : EStateM Failure σ Unit :=
  report (·.log level text)

/-- Counts a metric. -/
def count (metric : Metric) : EStateM Failure σ Unit :=
  report (·.count metric)

/-- Changes the innermost span. -/
def inTrace (change : Tracer → Tracer) : EStateM Failure σ Unit :=
  report fun telemetry => { telemetry with tracer := change telemetry.tracer }

/-- A computation in a span of its own. -/
def inSpan (name kind : String) (attributes : Fields) (act : EStateM Failure σ α) :
    EStateM Failure σ α := do
  inTrace (·.openSpan name kind attributes)
  match ← attempt act with
  | .ok a =>
    inTrace Tracer.closeSpan
    pure a
  | .error failure =>
    inTrace (·.failSpan failure)
    throw failure

/-- Adds an attribute to the innermost span. -/
def setAttribute (name : String) (value : Value) : EStateM Failure σ Unit :=
  inTrace (·.change (·.setAttribute name value))

/-- Sets the status of the innermost span. -/
def setStatus (status : SpanStatus) : EStateM Failure σ Unit :=
  inTrace (·.change (·.setStatus status))

/-- Sets the event that log lines belong to. -/
def setScope (scope : Option Scope) : EStateM Failure σ Unit :=
  report fun telemetry => { telemetry with scope }

/-- A computation whose log lines belong to an event. -/
def inScope (scope : Scope) (act : EStateM Failure σ α) : EStateM Failure σ α := do
  let outer := (← telemetry).scope
  setScope (some scope)
  let outcome ← attempt act
  setScope outer
  ofExcept outcome

end

namespace Work

variable {ω α : Type}

/-- The answer of the world to a call. -/
def ask (call : ω → Except Failure α × ω) : Work ω α := fun session =>
  match call session.world with
  | (.ok a, world) => .ok a { session with world }
  | (.error failure, world) => .error failure { session with world }

variable [World ω]

/-- The answer of the cluster to a call. -/
def cluster (call : ClusterCall α) : Work ω α :=
  ask (World.cluster call)

/-- The answer to a call over the wire. -/
def wire (call : WireCall) : Work ω HttpResponse :=
  ask (World.wire call)

/-- The answer of the chart engine to a call. -/
def chart (call : ChartCall α) : Work ω α :=
  ask (World.chart call)

/-- The path can name a file: the zero character does not stand in it. -/
def canName (path : String) : Bool :=
  path.toList.all fun c => c.toNat != 0

/-- The bytes of a file, or why it cannot be read. -/
def file (path : String) : Work ω (Except FileFault (List UInt8)) := do
  if canName path then pure (World.file (← get).world path)
  else throw (.shape .zeroInPath)

/-- The time of day. -/
def wallClock : Work ω String := do
  pure (World.wallClock (← get).world)

/-- The seconds on a clock that is never set. -/
def steadyClock : Work ω Number := do
  pure (World.steadyClock (← get).world)

/-- An identifier that was not handed out before. -/
def freshId : Work ω String :=
  ask fun world => (.ok (World.freshId world).1, (World.freshId world).2)

end Work

end Reconciler
