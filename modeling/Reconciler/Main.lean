import Reconciler.Json.Reader
import Reconciler.Operator.Lifecycle
import Reconciler.Simulation.Plan

/-!
# The command line

Rehearses the operator. The settings come from the environment. The first line of the input is the plan
of a simulated world, and every further line a notification with its type and its object. The log goes
to the output.
-/

namespace Reconciler.Rehearsal

/-- The most events that are handled after one notification. -/
def bound : Nat :=
  1000

/-- The value in a line, an empty map when there is none. -/
def valueOf (line : String) : Value :=
  match Json.parse line with
  | .ok value => value
  | .error _ => .map []

/-- Takes the notification in a line, and handles the events that follow. -/
def takeNotice (operator : Operator Simulation) (line : String) : Operate Simulation Unit := do
  let notice := valueOf line
  Operator.notice (Plan.text? notice "type") (Plan.part notice "object")
  Operator.control (operator.controller.workOff bound)

/-- The environment variables that are set. -/
def environment : IO Environment :=
  Settings.names.filterMapM fun name => do
    pure ((← IO.getEnv name).map fun text => (name, text))

/-- Prints what work of the operator logged; the answer is the state after it. -/
def perform (state : OperatorState Simulation) (work : Operate Simulation Unit) :
    IO (OperatorState Simulation) := do
  let after ←
    match work state with
    | .ok () after => pure after
    | .error failure after => do
      IO.eprintln failure.message
      pure after
  for line in after.control.session.telemetry.lines do
    IO.println line.text
  pure { after with control.session.telemetry.lines := [] }

/-- Takes notifications to the end of the input. -/
partial def rehearse (operator : Operator Simulation) (input : IO.FS.Stream)
    (state : OperatorState Simulation) : IO (OperatorState Simulation) := do
  let line ← input.getLine
  if line.isEmpty then pure state
  else rehearse operator input (← perform state (takeNotice operator line))

/-- Rehearses an operator from its start-up to its end. -/
def run (settings : Settings) : IO Unit := do
  let input ← IO.getStdin
  let world := Plan.world (valueOf (← input.getLine))
  let threshold := (LogSetup.standard settings.debug).threshold
  let operator : Operator Simulation := .ofSettings settings
  let start := OperatorState.start (Operator.session settings world threshold)
    (.standard world.steadyClock)
  let state ← rehearse operator input (← perform start operator.startUp)
  let _ ← perform state operator.cleanUp

end Reconciler.Rehearsal

/-- Rehearses the operator with the settings of the environment. -/
def main : IO UInt32 := do
  match Reconciler.Settings.ofEnvironment (← Reconciler.Rehearsal.environment) with
  | .ok setting =>
    setting.warnings.forM (IO.eprintln ·)
    Reconciler.Rehearsal.run setting.value
    pure 0
  | .error failure =>
    IO.eprintln failure.message
    pure 1
