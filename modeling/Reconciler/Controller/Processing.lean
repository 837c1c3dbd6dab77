import Reconciler.Controller.State

/-!
# Processing events

A worker reads the live resource for each event, makes sure that it holds the operator's finalizer,
and has the handler act. An event that fails is tried again with a growing delay until its retries are
used up; then the resource is marked as failed.
-/

namespace Reconciler.Controller

/-- What is to be done after an event. -/
inductive FollowUp where
  /-- Nothing. -/
  | nothing
  /-- The external resource is to be updated, for a reason. -/
  | update (reason : Failure)
  /-- The external resource is to be created. -/
  | create

variable {ω : Type} [World ω]

/-- The live resource, none when it is gone. -/
def fetch (controller : Controller ω) (ref : ObjectRef) : Work ω (Option Document) := do
  match ← attempt (Cluster.read controller.resource ref.namespace_ ref.name) with
  | .ok doc => pure (some doc)
  | .error failure => if failure.isAbsent then pure none else throw failure

/-- The document at hand is to be deleted. -/
def isGoing : Reconcile ω Bool := do
  pure (!(← ofExcept (← Desk.current).deletionTimestamp).isBlank)

/-- Makes the document at hand ready for the handler: it holds the finalizer, unless it is to be
deleted, and no metadata that decisions must not depend on. The answer is the event type that is left
to do. -/
def prepare (type : EventType) : Reconcile ω EventType := do
  let going ← isGoing
  if !going then
    if ← Desk.edit Document.ensureFinalizer then Handling.persist
  Desk.edit (modify Document.withoutTransientMetadata)
  pure (if going then .delete else type)

/-- Has the handler act on the document at hand. -/
def act (controller : Controller ω) : EventType → Reconcile ω FollowUp
  | .observe => do
    match ← attempt controller.handler.observe with
    | .ok isThere => pure (if isThere then .nothing else .create)
    | .error failure => if failure.isNotFound then pure (.update failure) else throw failure
  | .create => do
    controller.handler.create
    pure .nothing
  | .update => do
    controller.handler.update
    pure .nothing
  | .delete => do
    controller.handler.delete
    pure .nothing

/-- Adds the event that follows another one. -/
def follow (controller : Controller ω) (ref : ObjectRef) : FollowUp → Control ω Unit
  | .nothing => pure ()
  | .update reason => do
    log .debug (ref.text ++ " needs update: " ++ reason.sanitized)
    let event ← Control.newEvent .update ref
    Control.onQueue (·.add event)
  | .create => do
    Control.addAfter (← Control.newEvent .create ref) controller.options.createDelay

/-- Carries out an event on the live resource. -/
def dispatch (controller : Controller ω) (event : Event) : Control ω Unit := do
  match ← inSession (controller.fetch event.ref) with
  | none =>
    log .debug ("Resource " ++ event.ref.text ++ " no longer exists, dropping " ++ event.type.text)
  | some doc =>
    let next ← Control.atDesk doc do controller.act (← prepare event.type)
    controller.follow event.ref next

/-- Marks a document as failed, and writes it. -/
def writeFailure (doc : Document) (failure : Failure) : Work ω Document := do
  let now ← Work.wallClock
  match (Document.setReady (.failed failure.kind failure.sanitized) now).run doc with
  | .ok _ marked =>
    let _ ← Cluster.updateStatus marked
    pure marked
  | .error fault _ => throw fault

/-- Marks the live resource as failed, and records why. That it cannot be marked is logged. -/
def markFailed (controller : Controller ω) (ref : ObjectRef) (failure : Failure) : Work ω Unit := do
  let marking : Work ω (Option Document) := do
    match ← controller.fetch ref with
    | none => pure none
    | some doc => pure (some (← writeFailure doc failure))
  let unable (why : String) : Work ω Unit :=
    log .warning ("Unable to mark " ++ ref.text ++ " as failed: " ++ why)
  match ← attempt marking with
  | .ok none => pure ()
  | .ok (some doc) =>
    controller.recorder.failed doc ("Reconciliation failed: " ++ failure.sanitized)
  | .error (.cluster status reason) => unable (Failure.statusText status ++ " " ++ reason)
  | .error fault => unable (fault.kind ++ ": " ++ fault.sanitized)

/-- An event and its identifier, as they are logged. -/
def named (event : Event) : String :=
  event.text ++ " (" ++ event.id ++ ")"

/-- Tries a failed event again, after a delay. -/
def retry (controller : Controller ω) (event : Event) (retries : Nat) (failure : Failure) :
    Control ω Unit := do
  log .warning ("Error processing " ++ named event ++ ", retry " ++ toString (retries + 1) ++ "/" ++
    toString controller.options.maxRetries ++ ": " ++ failure.kind ++ ": " ++ failure.sanitized)
  count (.requeues event.ref.kind)
  Control.addRateLimited event

/-- Gives up a failed event. -/
def drop (controller : Controller ω) (event : Event) (retries : Nat) (failure : Failure) :
    Control ω Unit := do
  log .error ("Dropping " ++ named event ++ " after " ++ toString retries ++ " retries: " ++
    failure.kind ++ ": " ++ failure.sanitized)
  Control.onQueue (·.forget event)
  count (.drops event.ref.kind event.type.text)
  inSession (controller.markFailed event.ref failure)

/-- Settles how an event ended: its failures are forgotten when it succeeded, and otherwise it is
tried again or given up. -/
def settle (controller : Controller ω) (event : Event) (failure : Option Failure) :
    Control ω Unit := do
  match failure with
  | none => Control.onQueue (·.forget event)
  | some failure =>
    let retries ← ofExcept ((← get).queue.requeues event)
    if retries < controller.options.maxRetries then controller.retry event retries failure
    else controller.drop event retries failure

/-- Processes an event, in a span and a scope of its own. -/
def process (controller : Controller ω) (event : Event) : Control ω Unit :=
  inScope ⟨event.id, event.type.text, event.ref.text⟩
    (inSpan ("reconcile." ++ Text.lower event.type.text) event.ref.kind
      [(.text "resource.name", .text event.ref.name),
        (.text "resource.namespace", .text event.ref.namespace_)]
      (do
        setAttribute "correlation_id" (.text event.id)
        match ← attempt (controller.dispatch event) with
        | .ok () =>
          setStatus .ok
          controller.settle event none
        | .error failure =>
          setStatus (.error failure.sanitized)
          controller.settle event (some failure)))

end Reconciler.Controller
