import Reconciler.Value.Access

/-!
# Resource documents

The untyped tree of a resource with accessors that fail closed: a field that is absent or of another
kind is a failure, and the well-known fields read as empty.
-/

namespace Reconciler

/-- A resource of the cluster as an untyped tree. -/
structure Document where
  /-- The tree. -/
  object : Value
  /-- The identity of the object in the cluster, kept when the transient metadata is dropped. -/
  originUid : String
deriving Inhabited

/-- Edits of a document. What was written before a failure stays written. -/
abbrev Edit := EStateM Failure Document

namespace Document

/-- The document of a tree. -/
def ofObject (object : Value) : Document :=
  ⟨object, ""⟩

/-- The field that a path leads to. -/
def field (doc : Document) (path : List String) : Except Failure Value :=
  match doc.object.follow path with
  | .ok v => .ok v
  | .error .absent => .error (.fieldNotFound path)
  | .error (.notMap depth got) => .error (.fieldType (path.take depth) "map" got)

/-- The path leads to a field. -/
def hasField (doc : Document) (path : List String) : Bool :=
  (doc.field path).isOk

/-- The text that a path leads to. -/
def string (doc : Document) (path : List String) : Except Failure String := do
  match ← doc.field path with
  | .text s => pure s
  | v => throw (.fieldType path "string" v)

/-- The map that a path leads to. -/
def map (doc : Document) (path : List String) : Except Failure Fields := do
  match ← doc.field path with
  | .map fields => pure fields
  | v => throw (.fieldType path "map" v)

/-- The list that a path leads to. -/
def list (doc : Document) (path : List String) : Except Failure (List Value) := do
  match ← doc.field path with
  | .list items => pure items
  | v => throw (.fieldType path "list" v)

/-- The document with a field written. -/
def withField (doc : Document) (path : List String) (value : Value) : Except Failure Document :=
  if path.isEmpty then .error .nothingToSet
  else
    match doc.object.write path value with
    | .ok object => .ok { doc with object }
    | .error .absent => .error (.fieldNotFound path)
    | .error (.notMap 0 got) =>
      .error (.shape (if path.length == 1 then .notIndexed got.kind else .noMember got.kind "get"))
    | .error (.notMap depth got) => .error (.fieldType (path.take depth) "map" got)

/-- The document without a field. -/
def withoutField (doc : Document) (path : List String) : Document :=
  { doc with object := doc.object.remove path }

/-- The text that a path leads to, empty when there is none. -/
def optionalString (doc : Document) (path : List String) : String :=
  match doc.string path with
  | .ok s => s
  | .error _ => ""

/-- The group and version as stated. -/
def apiVersion (doc : Document) : String :=
  doc.optionalString ["apiVersion"]

/-- The kind. -/
def kind (doc : Document) : String :=
  doc.optionalString ["kind"]

/-- The name. -/
def name (doc : Document) : String :=
  doc.optionalString ["metadata", "name"]

/-- The namespace. -/
def namespace_ (doc : Document) : String :=
  doc.optionalString ["metadata", "namespace"]

/-- The identity in the cluster. -/
def uid (doc : Document) : String :=
  doc.optionalString ["metadata", "uid"]

/-- A member of the metadata, null when absent. -/
def metadataMember (doc : Document) (name : String) : Except Failure Value := do
  (← doc.object.memberOr "metadata" (.map [])).member name

/-- The generation, null unless it is a whole number. -/
def generation (doc : Document) : Except Failure Value := do
  match ← doc.metadataMember "generation" with
  | .int n => pure (.int n)
  | .bool b => pure (.bool b)
  | _ => pure .null

/-- The time at which deletion was asked for, null when it was not. -/
def deletionTimestamp (doc : Document) : Except Failure Value :=
  doc.metadataMember "deletionTimestamp"

/-- The annotations. -/
def annotations (doc : Document) : Except Failure Value := do
  pure ((← doc.metadataMember "annotations").orElse (.map []))

/-- The items of a list in the metadata. -/
def metadataItems (doc : Document) (name : String) : Except Failure (List Value) := do
  ((← doc.metadataMember name).orElse (.list [])).elements

/-- The finalizers. -/
def finalizers (doc : Document) : Except Failure (List Value) :=
  doc.metadataItems "finalizers"

/-- The references to owners. -/
def ownerReferences (doc : Document) : Except Failure (List Value) :=
  doc.metadataItems "ownerReferences"

/-- The coordinates of the kind. -/
def groupVersionKind (doc : Document) : Except Failure GroupVersionKind :=
  match parseApiVersion doc.apiVersion with
  | .ok (group, version) => .ok ⟨group, version, doc.kind⟩
  | .error fault => .error (.version fault)

/-- The reference to the document's object. -/
def ref (doc : Document) : ObjectRef :=
  ⟨doc.apiVersion, doc.kind, doc.name, doc.namespace_⟩

/-- The entries of a top-level map, none when it is absent. -/
def topLevelFields (doc : Document) (name : String) : Except Failure Fields :=
  match doc.map [name] with
  | .error (.fieldNotFound _) => .ok []
  | outcome => outcome

/-- The entries of the desired state. -/
def specFields (doc : Document) : Except Failure Fields :=
  doc.topLevelFields "spec"

/-- The entries of the observed state. -/
def statusFields (doc : Document) : Except Failure Fields :=
  doc.topLevelFields "status"

/-- The literal of a document. -/
def literal (doc : Document) : String :=
  "ResourceDocument(" ++ Text.quoted doc.apiVersion ++ ", " ++ Text.quoted doc.kind ++ ", " ++
    Text.quoted doc.name ++ ")"

/-- The annotation under which the last applied configuration is kept. -/
def lastAppliedAnnotation : String :=
  "kubectl.kubernetes.io/last-applied-configuration"

/-- The document without the metadata that decisions must not depend on. -/
def withoutTransientMetadata (doc : Document) : Document :=
  let doc := doc.withoutField ["metadata", "annotations", lastAppliedAnnotation]
  let doc := doc.withoutField ["metadata", "creationTimestamp"]
  let doc := doc.withoutField ["metadata", "generation"]
  let doc := { doc with originUid := if doc.uid.isEmpty then doc.originUid else doc.uid }
  doc.withoutField ["metadata", "uid"]

/-- The document asks for its requests to be logged. -/
def isVerbose (doc : Document) : Except Failure Bool := do
  match ← (← doc.annotations).memberOr "dynamic.controller.dev/verbose" (.text "") with
  | .text s => pure (Text.lower s == "true")
  | v => throw (.shape (.noMember v.kind "lower"))

/-- Writes a field. -/
def setField (path : List String) (value : Value) : Edit Unit := do
  set (← ofExcept ((← get).withField path value))

/-- Removes a field. -/
def removeField (path : List String) : Edit Unit := do
  if path.isEmpty && (← get).object.fields?.isSome then throw (.shape .emptyPath)
  modify (·.withoutField path)

end Document

end Reconciler
