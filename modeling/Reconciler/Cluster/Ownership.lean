import Reconciler.Cluster.Client
import Reconciler.Document.Metadata
import Reconciler.Reconciliation.Desk

/-!
# Ownership

The owners that a resource names in fields of its desired state. For each rule the objects of the
owner's kind are searched for the one whose observed or desired state holds the named text. The
document is written once, when owners were added.
-/

namespace Reconciler.Ownership

/-- A text field of the map has the wanted text. -/
def holdsText (fields : Fields) (wanted : String) : Bool :=
  fields.any fun field => field.2.text? == some wanted

/-- The observed or the desired state of an object holds the wanted text. -/
def isMatch (wanted : String) (object : Document) : Except Failure Bool := do
  if holdsText (← object.statusFields) wanted then pure true
  else pure (holdsText (← object.specFields) wanted)

/-- The first object whose state holds the wanted text. -/
def firstMatch (wanted : String) : List Document → Except Failure (Option Document)
  | [] => .ok none
  | object :: rest => do
    if ← isMatch wanted object then pure (some object) else firstMatch wanted rest

/-- The reference to an owner. -/
def entryOf (owner : Document) : Value :=
  .map [(.text "apiVersion", .text owner.apiVersion), (.text "kind", .text owner.kind),
    (.text "name", .text owner.name), (.text "uid", .text owner.uid)]

/-- One of the references has the identity. -/
def holdsIdentity (uid : String) : List Value → Except Failure Bool
  | [] => .ok false
  | reference :: rest => do
    if (← reference.member "uid").equal (.text uid) then pure true else holdsIdentity uid rest

variable {ω : Type} [World ω]

/-- The owner that a rule singles out for a document. -/
def ownerFor (doc : Document) (spec : Fields) (rule : OwnerRule) : Work ω Document := do
  match spec.get? rule.field with
  | some (.text wanted) =>
    if wanted.isEmpty then unset
    else
      let objects ← Cluster.list (← Cluster.resourceOf rule.owner) none
      if objects.isEmpty then
        throw (.noReference (.noInstances rule.owner.kind rule.field))
      match ← ofExcept (firstMatch wanted objects) with
      | some owner => pure owner
      | none => throw (.noReference (.noMatch rule.owner.kind rule.field wanted))
  | _ => unset
where
  /-- The field of the rule names no owner. -/
  unset {α : Type} : Work ω α :=
    throw (.noReference (.notSet rule.field doc.kind doc.name))

/-- The references to owners after those that rules single out were added. -/
def extended (doc : Document) (spec : Fields) (references : List Value) :
    List OwnerRule → Work ω (List Value)
  | [] => pure references
  | rule :: rest => do
    let owner ← ownerFor doc spec rule
    if ← ofExcept (holdsIdentity owner.uid references) then extended doc spec references rest
    else
      log .debug ("Adopting " ++ rule.owner.kind ++ " " ++ owner.name ++ " as owner of " ++
        doc.kind ++ " " ++ doc.name)
      extended doc spec (references ++ [entryOf owner]) rest

/-- Adds the owners that rules single out to the document at hand; says whether any was added. -/
def adopt (rules : List OwnerRule) : Reconcile ω Bool := do
  let doc ← Desk.current
  let references ← ofExcept doc.ownerReferences
  let spec ← ofExcept doc.specFields
  let all ← inSession (extended doc spec references rules)
  if all.length == references.length then pure false
  else
    Desk.edit (Document.setOwnerReferences all)
    let updated ← inSession (Cluster.update (← Desk.current))
    Desk.edit (Document.adoptVersion updated)
    pure true

end Reconciler.Ownership
