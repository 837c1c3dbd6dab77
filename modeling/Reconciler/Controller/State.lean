import Reconciler.Event
import Reconciler.Reconciliation.Handling

/-!
# The state of the controller

What changes while the controller runs: the session, the queue of events, and what was last seen of
each known resource. A controller that stops accepting events drops them.
-/

namespace Reconciler

/-- What was last seen of a resource. -/
structure Snapshot where
  /-- The generation. -/
  generation : Value
  /-- The desired state. -/
  spec : Value

namespace Snapshot

/-- What is seen of a resource. -/
def ofDocument (doc : Document) : Except Failure Snapshot := do
  let generation ← doc.generation
  let spec ← doc.object.member "spec"
  pure ⟨generation, spec⟩

/-- The snapshots show the same generation and desired state. -/
def equal (a b : Snapshot) : Bool :=
  a.generation.equal b.generation && a.spec.equal b.spec

end Snapshot

/-- The numbers that a controller is set up with. -/
structure ControlOptions where
  /-- The number of workers. -/
  workers : Int
  /-- The seconds between two rounds over all known resources. -/
  resyncInterval : Number
  /-- The number of times that a failed event is tried again. -/
  maxRetries : Int
  /-- The seconds before an external resource is created. -/
  createDelay : Number

/-- The usual options: one worker, a round every 180 seconds, five retries, and three seconds before
an external resource is created. -/
def ControlOptions.standard : ControlOptions :=
  ⟨1, .float 180.0, 5, .float 3.0⟩

/-- The options under their names. -/
def ControlOptions.toValue (options : ControlOptions) : Value :=
  .ofFields
    [("workers", .int options.workers), ("resync_interval", options.resyncInterval.toValue),
      ("max_retries", .int options.maxRetries), ("create_delay", options.createDelay.toValue)]

/-- What a controller is made of. -/
structure Controller (ω : Type) where
  /-- The handler of the resources. -/
  handler : Handler ω
  /-- The coordinates of the resources. -/
  resource : GroupVersionResource
  /-- The recorder of failures. -/
  recorder : Recorder
  /-- The numbers that it is set up with. -/
  options : ControlOptions

/-- The queue of a controller. -/
abbrev EventQueue := WorkQueue Event ObjectRef Number

/-- What changes while a controller runs. -/
structure ControlState (ω : Type) where
  /-- The session. -/
  session : Session ω
  /-- The queue. -/
  queue : EventQueue
  /-- The known resources, with what was last seen of them. -/
  known : List (ObjectRef × Snapshot)
  /-- Events are accepted. -/
  isAccepting : Bool

/-- Work of a controller. -/
abbrev Control (ω : Type) := EStateM Failure (ControlState ω)

instance {ω : Type} : InSession (ControlState ω) ω where
  session := ControlState.session
  withSession session state := { state with session }

namespace ControlState

/-- The state at the start. -/
def start {ω : Type} (session : Session ω) (limiter : RateLimiter Event Number) : ControlState ω :=
  ⟨session, .empty limiter, [], true⟩

/-- The known resources with what is seen of one: in its place, or at the end for a new one. -/
def remember (ref : ObjectRef) (snapshot : Snapshot) :
    List (ObjectRef × Snapshot) → List (ObjectRef × Snapshot)
  | [] => [(ref, snapshot)]
  | (r, s) :: rest => if r == ref then (r, snapshot) :: rest else (r, s) :: remember ref snapshot rest

/-- The known resources without one. -/
def forget (ref : ObjectRef) (known : List (ObjectRef × Snapshot)) : List (ObjectRef × Snapshot) :=
  known.filter fun entry => entry.1 != ref

end ControlState

namespace Control

variable {ω α : Type}

/-- Changes the queue. -/
def onQueue (change : EventQueue → EventQueue) : Control ω Unit :=
  modify fun state => { state with queue := change state.queue }

/-- Changes what is known. -/
def onKnown (change : List (ObjectRef × Snapshot) → List (ObjectRef × Snapshot)) : Control ω Unit :=
  modify fun state => { state with known := change state.known }

/-- The references of the known resources. -/
def knownRefs : Control ω (List ObjectRef) := do
  pure ((← get).known.map Prod.fst)

/-- Work on a document, in the session of the controller. -/
def atDesk (document : Document) (act : Reconcile ω α) : Control ω α :=
  inSession (within (fun session => ⟨session, document⟩) (fun desk _ => desk.session) act)

variable [World ω]

/-- A new event. -/
def newEvent (type : EventType) (ref : ObjectRef) : Control ω Event := do
  pure ⟨type, ref, ← inSession Work.freshId⟩

/-- Lets the delayed events arrive that are due. -/
def deliverDue : Control ω Unit := do
  let now ← inSession Work.steadyClock
  onQueue (·.deliver now)

/-- Adds a new event with a delay. -/
def addAfter (event : Event) (delay : Number) : Control ω Unit := do
  let now ← inSession Work.steadyClock
  onQueue (·.addAfter now event delay)

/-- Adds a failed event again, to wait as the limiter says. -/
def addRateLimited (event : Event) : Control ω Unit := do
  let now ← inSession Work.steadyClock
  let state ← get
  let (outcome, queue) := state.queue.addRateLimited now event
  set { state with queue }
  ofExcept outcome

/-- Puts an event into the queue, unless events are not accepted any more. -/
def enqueue (type : EventType) (ref : ObjectRef) : Control ω Unit := do
  if (← get).isAccepting then
    let event ← newEvent type ref
    log .debug ("Enqueued " ++ event.text ++ " (" ++ event.id ++ ")")
    onQueue (·.add event)

end Control

end Reconciler
