import Reconciler.Session

/-!
# The desk

The state of a reconciliation: the session, and the document at hand.
-/

namespace Reconciler

/-- A session with a document at hand. -/
structure Desk (ω : Type) where
  /-- The session. -/
  session : Session ω
  /-- The document at hand. -/
  document : Document

/-- Work on the document at hand. -/
abbrev Reconcile (ω : Type) := EStateM Failure (Desk ω)

instance {ω : Type} : InSession (Desk ω) ω where
  session := Desk.session
  withSession session desk := { desk with session }

namespace Desk

variable {ω α : Type}

/-- The document at hand. -/
def current : Reconcile ω Document := do
  pure (← get).document

/-- An edit of the document at hand. -/
def edit (change : Edit α) : Reconcile ω α :=
  within Desk.document (fun document desk => { desk with document }) change

end Desk

end Reconciler
