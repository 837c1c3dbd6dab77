import Reconciler.Controller.State

/-!
# Watching

Notifications about resources become events: a resource that is new or unchanged is observed, one
whose generation or desired state has changed is updated, and one that is to be deleted is deleted.
-/

namespace Reconciler.Control

variable {ω : Type} [World ω]

/-- The document that a notification shows. -/
def shown (body : Value) : Document :=
  Cluster.documentOf body

/-- A resource is listed or was added. -/
def noticeAdded (body : Value) : Control ω Unit := do
  let doc := shown body
  let snapshot ← ofExcept (Snapshot.ofDocument doc)
  onKnown (ControlState.remember doc.ref snapshot)
  enqueue .observe doc.ref

/-- What is to be done for a resource that was modified. -/
def eventTypeFor (deletion : Value) (previous : Option Snapshot) (current : Snapshot) : EventType :=
  if !deletion.isBlank then .delete
  else
    match previous with
    | some previous => if previous.equal current then .observe else .update
    | none => .observe

/-- A resource was modified. -/
def noticeModified (body : Value) : Control ω Unit := do
  let doc := shown body
  let current ← ofExcept (Snapshot.ofDocument doc)
  let previous := (← get).known.lookup doc.ref
  onKnown (ControlState.remember doc.ref current)
  enqueue (eventTypeFor (← ofExcept doc.deletionTimestamp) previous current) doc.ref

/-- A resource was deleted. -/
def noticeDeleted (body : Value) : Control ω Unit :=
  onKnown (ControlState.forget (shown body).ref)

/-- A notification of a type, or the listing of a resource at the start, which has no type. -/
def notice (type : Option String) (body : Value) : Control ω Unit :=
  match type with
  | none | some "ADDED" => noticeAdded body
  | some "MODIFIED" => noticeModified body
  | some "DELETED" => noticeDeleted body
  | some other => log .debug ("Ignoring watch event of type " ++ other)

/-- All known resources are to be observed again. -/
def resync : Control ω Unit := do
  (← knownRefs).forM (enqueue .observe)

/-- A number of rounds over all known resources; the answer holds the wait before each round, and the
one that the end came in. -/
def resyncRounds (interval : Number) : Nat → Control ω (List Number)
  | 0 => pure [interval]
  | rounds + 1 => do
    resync
    pure (interval :: (← resyncRounds interval rounds))

end Reconciler.Control
