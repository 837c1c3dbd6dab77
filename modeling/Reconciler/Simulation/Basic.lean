import Reconciler.Reconciliation.Handling
import Reconciler.Simulation.Cluster
import Reconciler.Simulation.Files

/-!
# A simulated world

A world whose answers are given beforehand: a simulated cluster, answers over the wire in the order in
which they are used up, a chart engine that keeps its releases, files, and clocks that stand still.
Every call is written down.
-/

namespace Reconciler

/-- A simulated chart engine. -/
structure SimulatedCharts where
  /-- The names and namespaces of the releases. -/
  releases : List (String × String)
  /-- The manifest that is rendered. -/
  manifest : String
  /-- The chart that is deployed. -/
  info : ChartInfo
  /-- The failures of calls, by their names. -/
  failures : List (String × Failure)

namespace SimulatedCharts

/-- The answer to a call that does not fail, and the engine after it. -/
def answered {α : Type} (charts : SimulatedCharts) : ChartCall α → Except Failure α × SimulatedCharts
  | .info _ => (.ok charts.info, charts)
  | .find name place =>
    if charts.releases.contains (name, place) then (.ok (), charts)
    else (.error (.releaseNotFound ("release " ++ name ++ " not found")), charts)
  | .install release _ =>
    (.ok (), { charts with releases := charts.releases ++ [(release.name, release.namespace_)] })
  | .render .. => (.ok (Text.Utf8.encode charts.manifest), charts)
  | .uninstall release =>
    (.ok (), { charts with
      releases := charts.releases.filter (· != (release.name, release.namespace_)) })

/-- The answer to a call, and the engine after it. -/
def answer {α : Type} (charts : SimulatedCharts) (call : ChartCall α) :
    Except Failure α × SimulatedCharts :=
  match charts.failures.lookup call.name with
  | some failure => (.error failure, charts)
  | none => charts.answered call

end SimulatedCharts

/-- A simulated world. -/
structure Simulation where
  /-- The cluster. -/
  cluster : Simulation.Cluster
  /-- The answers to requests that are left. -/
  responses : List (Except Failure HttpResponse)
  /-- The answers to downloads, by their addresses. -/
  downloads : List (String × Except Failure HttpResponse)
  /-- The chart engine. -/
  charts : SimulatedCharts
  /-- The files. -/
  files : SimulatedFiles
  /-- The time of day. -/
  wallClock : String
  /-- The seconds on the steady clock. -/
  steadyClock : Number
  /-- The number of identifiers that were handed out. -/
  identifiers : Nat
  /-- The outcomes that are left for each action of the simulated handler. -/
  outcomes : List (String × List (Except Failure Value))
  /-- The calls that were written down, in order. -/
  transcript : List Transcribed

namespace Simulation

/-- The world with a call written down. -/
def transcribe (world : Simulation) (call : Transcribed) : Simulation :=
  { world with transcript := world.transcript ++ [call] }

/-- The failure of a call that no answer is left for. -/
def unanswered {α : Type} : Except Failure α :=
  .error (.exchange .connection "no scripted response")

/-- The answer as it comes from an address, unless it names another one. -/
def fromAddress (url : String) (answer : Except Failure HttpResponse) : Except Failure HttpResponse :=
  answer.map fun response => if response.url.isEmpty then { response with url } else response

/-- The answer over the wire, and the world after it. -/
def answerWire (world : Simulation) : WireCall → Except Failure HttpResponse × Simulation
  | .send request =>
    match world.responses with
    | [] => (unanswered, world)
    | answer :: rest => (fromAddress request.url answer, { world with responses := rest })
  | .download url _ => (fromAddress url ((world.downloads.lookup url).getD unanswered), world)

instance : World Simulation where
  cluster call world :=
    let world := world.transcribe call.transcribed
    let (answer, cluster) := world.cluster.answer call
    (answer, { world with cluster })
  wire call world := (world.transcribe call.transcribed).answerWire call
  chart call world :=
    let world := world.transcribe call.transcribed
    let (answer, charts) := world.charts.answer call
    (answer, { world with charts })
  file world path := world.files.read path
  wallClock := Simulation.wallClock
  steadyClock := Simulation.steadyClock
  freshId world :=
    let identifiers := world.identifiers + 1
    (String.ofList (Text.hexDigits 8 identifiers), { world with identifiers })

/-- The first of the outcomes of an action, and those that are left. -/
def takeOutcome (action : String) :
    List (String × List (Except Failure Value)) →
      Option (Except Failure Value) × List (String × List (Except Failure Value))
  | [] => (none, [])
  | (name, outcomes) :: rest =>
    if name == action then (outcomes.head?, (name, outcomes.tail) :: rest)
    else
      let (outcome, rest) := takeOutcome action rest
      (outcome, (name, outcomes) :: rest)

/-- The next outcome of an action of the simulated handler, which is written down; without one it is
the given value. -/
def outcome (action : String) (usual : Value) : Reconcile Simulation Value := do
  let doc ← Desk.current
  let call : Transcribed := ⟨.handler, action, .ofFields
    [("object", doc.object), ("origin_uid", .text doc.originUid)]⟩
  inSession (Work.ask fun world =>
    let world := world.transcribe call
    let (outcome, outcomes) := takeOutcome action world.outcomes
    (outcome.getD (.ok usual), { world with outcomes }))

/-- A handler whose outcomes are given beforehand. -/
def handler : Handler Simulation where
  observe := do
    let seen ← outcome "observe" (.bool true)
    pure (!seen.isBlank)
  create := do let _ ← outcome "create" .null
  update := do let _ ← outcome "update" .null
  delete := do let _ ← outcome "delete" .null

end Simulation

end Reconciler
