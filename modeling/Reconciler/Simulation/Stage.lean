import Reconciler.Controller.Running
import Reconciler.Reconciliation.Chart
import Reconciler.Reconciliation.Rest
import Reconciler.Simulation.Plan

/-!
# Stages

A controller and named documents over one simulated world, and what works on them: the handler, the
recorder and the source of definitions that a plan asks for.
-/

namespace Reconciler

/-- A controller over a simulated world, and named documents. -/
structure Stage where
  /-- The state of the controller. -/
  control : ControlState Simulation
  /-- The documents. -/
  documents : List (String × Document)

/-- What works on a stage. -/
structure Crew where
  /-- The recorder. -/
  recorder : Recorder
  /-- The source of definitions. -/
  definitions : DefinitionSource
  /-- What the handler shares with other handlers, none for a handler of given outcomes. -/
  handling : Option Handling
  /-- The handler. -/
  handler : Handler Simulation
  /-- The controller. -/
  controller : Controller Simulation

/-- Work on a stage. -/
abbrev Play := EStateM Failure Stage

namespace Stage

variable {α : Type}

/-- The stage that a plan asks for. -/
def ofPlan (plan : Value) (session : Session Simulation) : Stage where
  control :=
    .start session
      (Plan.limiter session.world.steadyClock (Plan.part (Plan.part plan "controller") "limiter"))
  documents := Plan.named Document.ofObject plan "docs"

/-- The session of a stage. -/
def session (stage : Stage) : Session Simulation :=
  stage.control.session

/-- The document with a name. -/
def document (stage : Stage) (name : String) : Document :=
  (stage.documents.lookup name).getD (.ofObject (.map []))

/-- The stage after work at a desk with the document of a name. -/
def withDesk (name : String) (desk : Desk Simulation) (stage : Stage) : Stage where
  control := { stage.control with session := desk.session }
  documents := stage.documents.map fun (n, document) =>
    if n == name then (n, desk.document) else (n, document)

/-- Work of the controller. -/
def controlling (act : Control Simulation α) : Play α :=
  within Stage.control (fun control stage => { stage with control }) act

/-- Work in the session. -/
def work (act : Work Simulation α) : Play α :=
  controlling (inSession act)

/-- Work on the document with a name. -/
def atDocument (name : String) (act : Reconcile Simulation α) : Play α :=
  within (fun stage => ⟨stage.session, stage.document name⟩) (withDesk name) act

end Stage

namespace Crew

/-- The source of definitions that a plan asks for. -/
def definitions? (plan : Value) : Option DefinitionSource :=
  match Plan.text plan "mode" with
  | "none" => none
  | "static" =>
    some (.fixed (Plan.text plan "url") (Plan.text plan "descriptor") (Plan.flag plan "auth" true))
  | _ => some .cluster

/-- The handler without any action. -/
def idle : Handler Simulation :=
  ⟨unable, unable, unable, unable⟩
where
  /-- An action that the handler lacks. -/
  unable {α : Type} : Reconcile Simulation α :=
    throw (.shape (.noMember "handler" "action"))

/-- The handler that a plan asks for, and what it shares with other handlers. -/
def handlerOf (plan : Value) (recorder : Recorder) :
    Except Failure (Option Handling × Handler Simulation) :=
  match Plan.text? plan "backend" with
  | none | some "rest" => do
    let rest ← RestHandling.ofSource recorder (definitions? (Plan.part plan "definitions"))
      (Plan.number plan "request_timeout" (.float 30.0)) (Plan.flag plan "debug" false)
    pure (some rest.handling, rest.handler)
  | some "chart" =>
    let chart := ChartHandling.ofRecorder recorder
    .ok (some chart.handling, chart.handler)
  | some "base" => .ok (some ⟨"TestKind", recorder⟩, idle)
  | some _ => .ok (none, Simulation.handler)

/-- The options of a controller. -/
def options (plan : Value) : ControlOptions :=
  let usual := ControlOptions.standard
  { workers := Plan.whole plan "workers" usual.workers
    resyncInterval := Plan.number plan "resync_interval" usual.resyncInterval
    maxRetries := Plan.whole plan "max_retries" usual.maxRetries
    createDelay := Plan.number plan "create_delay" usual.createDelay }

/-- The crew that a plan asks for. -/
def ofPlan (plan : Value) : Except Failure Crew := do
  let recorder : Recorder :=
    ⟨(Plan.text? plan "component").getD operatorName, Plan.flag plan "core" true⟩
  let (handling, handler) ← handlerOf plan recorder
  let control := Plan.part plan "controller"
  pure
    { recorder, handling, handler
      definitions := (definitions? (Plan.part plan "definitions")).getD .cluster
      controller :=
        { handler
          resource := Plan.coordinates control "gvr"
          recorder := if Plan.flag control "recorder" true then recorder else .standard false
          options := options (Plan.part control "options") } }

end Crew

end Reconciler
