import Reconciler.Value.Access
import Reconciler.WorkQueue

/-!
# Events

The units of work of the controller: an action on the resource that a reference points to. An event
carries no resource, and the identifier that follows it through the logs does not count for equality.
-/

namespace Reconciler

/-- What an event asks for. -/
inductive EventType where
  /-- To compare the external resource with the desired state. -/
  | observe
  /-- To create the external resource. -/
  | create
  /-- To update the external resource. -/
  | update
  /-- To delete the external resource. -/
  | delete
deriving DecidableEq, Repr, Inhabited

namespace EventType

/-- The written form of an event type. -/
def text : EventType → String
  | .observe => "Observe"
  | .create => "Create"
  | .update => "Update"
  | .delete => "Delete"

/-- All event types. -/
def all : List EventType :=
  [.observe, .create, .update, .delete]

/-- The event type with a written form. -/
def ofText? (s : String) : Option EventType :=
  all.find? fun type => type.text == s

end EventType

/-- One unit of work. -/
structure Event where
  /-- What is asked for. -/
  type : EventType
  /-- The resource it is asked for. -/
  ref : ObjectRef
  /-- The identifier that follows the event through the logs. -/
  id : String
deriving Repr, Inhabited

namespace Event

instance : BEq Event where
  beq a b := a.type == b.type && a.ref == b.ref

instance : Keyed Event ObjectRef where
  key event := event.ref

/-- The written form of an event. -/
def text (event : Event) : String :=
  event.type.text ++ " " ++ event.ref.text

/-- The map that describes an event, without its identifier. -/
def toValue (event : Event) : Value :=
  .ofFields [("event", .text event.type.text), ("ref", event.ref.toValue)]

end Event

/-- Work that is named by a text is its own key, beside the keys of other work. -/
instance {ι κ : Type} [Keyed ι κ] : Keyed (String ⊕ ι) (String ⊕ κ) where
  key
    | .inl name => .inl name
    | .inr item => .inr (Keyed.key item)

end Reconciler
