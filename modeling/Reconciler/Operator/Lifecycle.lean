import Reconciler.Health
import Reconciler.Operator.Basic

/-!
# The life of the operator

At the start-up the controller is started and its health is served. Notifications that come before it
are dropped. At the end the controller is stopped, and then the endpoint of its health.
-/

namespace Reconciler

/-- What is asked of the process around the operator. -/
inductive ProcessCall where
  /-- Log lines are set up. -/
  | setUpLogging (setup : LogSetup)
  /-- Health is served on a socket of a number, in a state of readiness. -/
  | serveHealth (socket : Int) (isReady : Bool)
  /-- Health is not served any more, in a state of readiness. -/
  | endHealth (isReady : Bool)
deriving DecidableEq, Repr

/-- The request as a value. -/
def ProcessCall.toValue : ProcessCall → Value
  | .setUpLogging setup => .list [.text "logging", .bool (setup.threshold == .debug)]
  | .serveHealth socket isReady => .list [.text "start", .int socket, .bool isReady]
  | .endHealth isReady => .list [.text "shutdown", .bool isReady]

/-- The state of an operator. -/
structure OperatorState (ω : Type) where
  /-- The state of its controller. -/
  control : ControlState ω
  /-- The names of the threads that run, none before the start-up. -/
  threads : Option (List String)
  /-- What was asked of the process. -/
  processCalls : List ProcessCall

/-- Work of an operator. -/
abbrev Operate (ω : Type) := EStateM Failure (OperatorState ω)

namespace OperatorState

/-- The state before the start-up. -/
def start {ω : Type} (session : Session ω) (limiter : RateLimiter Event Number) : OperatorState ω :=
  ⟨.start session limiter, none, []⟩

/-- The operator is ready while its queue takes events. -/
def isReady {ω : Type} (state : OperatorState ω) : Bool :=
  !state.control.queue.closed

end OperatorState

namespace Operator

variable {ω α : Type} [World ω]

/-- Work of the controller. -/
def control (work : Control ω α) : Operate ω α :=
  within OperatorState.control (fun control state => { state with control }) work

/-- Asks something of the process. -/
def askProcess (call : ProcessCall) : Operate ω Unit :=
  modify fun state => { state with processCalls := state.processCalls ++ [call] }

/-- The line that says what is watched. -/
def watchLine (settings : Settings) : String :=
  "Watching " ++ settings.group ++ "/" ++ settings.version ++ "/" ++ settings.resource ++
    " in namespace " ++ settings.namespace_

/-- Starts the operator. -/
def startUp (operator : Operator ω) : Operate ω Unit := do
  askProcess (.setUpLogging (.standard operator.settings.debug))
  askProcess (.serveHealth operator.settings.healthSocket (← get).isReady)
  let threads ← control (operator.controller.start operator.settings.workers)
  modify fun state => { state with threads := some threads }
  control (log .info (watchLine operator.settings))

/-- Takes a notification of a type about an object; before the start-up it is dropped. -/
def notice (type : Option String) (object : Value) : Operate ω Unit := do
  if (← get).threads.isSome then control (Control.notice type (object.orElse (.map [])))

/-- Stops the operator. -/
def cleanUp (operator : Operator ω) : Operate ω Unit := do
  if (← get).threads.isSome then
    control operator.controller.stop
    modify fun state => { state with threads := some [] }
    askProcess (.endHealth (← get).isReady)

end Operator

end Reconciler
