import Reconciler.Cluster.Client

/-!
# Authentication

The credentials that a resource refers to: objects of its own group, which hold the secret part or
refer to a secret of the cluster. The first reference that is set counts.
-/

namespace Reconciler.Authentication

/-- The version of the objects that hold credentials. -/
def version : String :=
  "v1alpha1"

/-- The field of the desired state that holds the references. -/
def referencesField : String :=
  "authenticationRefs"

/-- The name that a value gives to an object of credentials. -/
def nameOf? (value : Value) : Option String :=
  match value with
  | .text name => if name.isEmpty then none else some name
  | _ => none

/-- The first reference that is set, with its kind of credentials and the name it gives. -/
def firstReference : Fields → Except Failure (Option (CredentialsKind × String))
  | [] => .ok none
  | (key, value) :: rest =>
    match nameOf? value with
    | none => firstReference rest
    | some name =>
      match key with
      | .text key => (CredentialsKind.ofKey key).map fun kind => some (kind, name)
      | key => .error (.shape (.noMember key.kind "split"))

/-- The reference of a document, none when it refers to no credentials. -/
def referenceOf (doc : Document) : Except Failure (Option (CredentialsKind × String)) := do
  match (← doc.specFields).get? referencesField with
  | some (.map references) => firstReference references
  | _ => pure none

/-- The coordinates of the objects that hold a kind of credentials, in the group of a document. -/
def resourceOf (doc : Document) (kind : CredentialsKind) : Except Failure GroupVersionResource := do
  pure ⟨(← doc.groupVersionKind).group, version, pluralize (kind.text ++ "auth")⟩

/-- The failure of an object of credentials that lacks a field. -/
def missing {ω α : Type} (field : String) (doc : Document) : Work ω α :=
  throw (.missingField ("spec." ++ field) (doc.kind ++ " " ++ doc.name))

variable {ω : Type} [World ω]

/-- The text of a field, or of the entry of a secret that another field refers to. -/
def secretOrField (doc : Document) (field referenceField : String) : Work ω String := do
  let spec ← ofExcept doc.specFields
  match ((spec.get? field).bind nameOf?), spec.get? referenceField with
  | some text, _ => pure text
  | none, some (.map reference) =>
    let part (name : String) : Value := (Fields.get? reference name).getD .null
    if (part "name").isBlank || (part "key").isBlank then missing field doc
    else
      Cluster.readSecret ((part "namespace").orElse (.text doc.namespace_)).plain
        (part "name").plain (part "key").plain
  | none, _ => missing field doc

/-- The credentials that an object holds. -/
def credentialsOf (doc : Document) (kind : CredentialsKind) : Work ω Credentials := do
  match kind with
  | .basic =>
    match ((← ofExcept doc.specFields).get? "username").bind nameOf? with
    | none => missing "username" doc
    | some username => pure (.basic username (← secretOrField doc "password" "passwordRef"))
  | .bearer => pure (.bearer (← secretOrField doc "token" "tokenRef"))

/-- The credentials that a document refers to, none when it refers to none. -/
def resolve (doc : Document) : Work ω (Option Credentials) := do
  match ← ofExcept (referenceOf doc) with
  | none => pure none
  | some (kind, name) =>
    let holder ← Cluster.read (← ofExcept (resourceOf doc kind)) doc.namespace_ name
    pure (some (← credentialsOf holder kind))

end Reconciler.Authentication
