import Reconciler.Document.Basic

/-!
# Written metadata and identifiers

The operator's finalizer, the resource version that the cluster answers, and the identifiers of the
external resource in the status.
-/

namespace Reconciler.Document

/-- The finalizer by which the operator holds a resource until its external resource is gone. -/
def finalizer : String :=
  "dynamic.controller.dev/finalizer"

/-- The list holds the operator's finalizer. -/
def holdsFinalizer (finalizers : List Value) : Bool :=
  finalizers.any (·.equal (.text finalizer))

/-- The list without the first occurrence of the operator's finalizer. -/
def withoutFinalizer (finalizers : List Value) : List Value :=
  finalizers.eraseP (·.equal (.text finalizer))

/-- Writes the finalizers. -/
def setFinalizers (finalizers : List Value) : Edit Unit :=
  setField ["metadata", "finalizers"] (.list finalizers)

/-- Writes the references to owners. -/
def setOwnerReferences (references : List Value) : Edit Unit :=
  setField ["metadata", "ownerReferences"] (.list references)

/-- Adds the operator's finalizer unless it is there; says whether the document changed. -/
def ensureFinalizer : Edit Bool := do
  let finalizers ← ofExcept (← get).finalizers
  if holdsFinalizer finalizers then pure false
  else
    setFinalizers (finalizers ++ [.text finalizer])
    pure true

/-- Removes the operator's finalizer; says whether the document changed. -/
def removeFinalizer : Edit Bool := do
  let finalizers ← ofExcept (← get).finalizers
  if holdsFinalizer finalizers then
    setFinalizers (withoutFinalizer finalizers)
    pure true
  else pure false

/-- Takes over the resource version of the object that the cluster answered, so that a later write
does not conflict with this one. -/
def adoptVersion (updated : Document) : Edit Unit := do
  match ← ofExcept (updated.metadataMember "resourceVersion") with
  | .text version =>
    if version.isEmpty then pure () else setField ["metadata", "resourceVersion"] (.text version)
  | _ => pure ()

/-- Writes the identifiers that an answer holds into the status. -/
def writeIdentifiers (identifiers : List String) (body : Value) : Edit Unit := do
  match body with
  | .map fields =>
    for name in identifiers do
      match Fields.get? fields name with
      | none | some .null => pure ()
      | some value => setField ["status", name] (.text (← ofExcept value.parameter))
  | _ => pure ()

/-- The status holds a value for one of the identifiers. -/
def hasIdentifier (doc : Document) (identifiers : List String) : Except Failure Bool := do
  let status ← doc.statusFields
  pure (identifiers.any fun name =>
    match status.get? name with
    | none | some .null => false
    | some value => !value.equal (.text ""))

end Reconciler.Document
