import Reconciler.Controller.Processing
import Reconciler.Controller.Watch

/-!
# Running the controller

Workers take events from the queue one by one until it is closed and empty. A controller that is
stopped accepts no more events and closes its queue.
-/

namespace Reconciler.Controller

variable {ω : Type} [World ω]

/-- Processes an event that was handed out; that this fails is logged. -/
def handle (controller : Controller ω) (event : Event) : Control ω Unit := do
  match ← attempt (controller.process event) with
  | .ok () => pure ()
  | .error _ => log .error ("Unexpected error processing " ++ named event)
  Control.onQueue (·.done event)

/-- The next event, if there is one. -/
def take : Control ω (Handout Event) := do
  let state ← get
  let (handout, queue) := state.queue.get
  set { state with queue }
  pure handout

/-- Handles events until none is left to hand out, or as many as the bound says. -/
def workOff (controller : Controller ω) : Nat → Control ω Unit
  | 0 => pure ()
  | bound + 1 => do
    match (← take).item with
    | none => pure ()
    | some event =>
      controller.handle event
      controller.workOff bound

/-- The number of workers that are started when a number is asked for. -/
def workerCount (controller : Controller ω) (wanted : Int) : Int :=
  if wanted == 0 then controller.options.workers else wanted

/-- The names of the threads that a number of workers runs in. -/
def threadNames (workers : Int) : List String :=
  (List.range workers.toNat).map (fun n => "worker-" ++ toString n) ++ ["resync"]

/-- Starts a number of workers; the answer holds the names of their threads. -/
def start (controller : Controller ω) (wanted : Int) : Control ω (List String) := do
  let workers := controller.workerCount wanted
  log .info ("Controller for " ++ controller.resource.resource ++ " started with " ++
    toString workers ++ " workers")
  pure (threadNames workers)

/-- Accepts no more events, and closes the queue; says whether nothing was left in it. -/
def close : Control ω Bool := do
  modify fun state => { state with isAccepting := false, queue := state.queue.close }
  let queue := (← get).queue
  if queue.isDrained then pure true
  else
    log .warning ("Queue drain timed out with " ++ toString queue.processing.length ++
      " items in flight")
    pure false

/-- Stops the controller. -/
def stop (controller : Controller ω) : Control ω Unit := do
  let _ ← close
  log .info ("Controller for " ++ controller.resource.resource ++ " stopped")

end Reconciler.Controller
