import Reconciler.Cluster.Authentication
import Reconciler.Yaml.Reader

/-!
# Definitions

How the resources of a kind reach their backend: the place of the API description, the descriptor of
the kind, and the credentials. Definitions are objects of the cluster beside the resources, or fixed
for the whole program.
-/

namespace Reconciler

/-- Everything that is needed to talk to the backend of a resource. -/
structure Definition where
  /-- The place of the API description. -/
  url : String
  /-- The descriptor of the kind. -/
  descriptor : Descriptor
  /-- The credentials of requests. -/
  credentials : Option Credentials
  /-- Requests are logged. -/
  isVerbose : Bool

/-- Where definitions come from. -/
inductive DefinitionSource where
  /-- From objects of the cluster. -/
  | cluster
  /-- From a fixed description and the file of a descriptor. -/
  | fixed (url descriptorPath : String) (authenticates : Bool)
deriving DecidableEq, Repr

namespace Definition

/-- The coordinates of the definitions in the cluster. -/
def resource : GroupVersionResource :=
  ⟨"dynamic.controller.dev", "v1alpha1", "definitions"⟩

/-- The object defines the kind of a group. -/
def describes (group kind : String) (object : Document) : Except Failure Bool := do
  let spec ← object.specFields
  match spec.get? "resource" with
  | some (.map described) =>
    pure (((spec.get? "resourceGroup").getD .null).equal (.text group) &&
      ((Fields.get? described "kind").getD .null).equal (.text kind))
  | _ => pure false

/-- The objects that define the kind of a group, in order. -/
def matching (group kind : String) : List Document → Except Failure (List Document)
  | [] => .ok []
  | object :: rest => do
    let isMatch ← describes group kind object
    let others ← matching group kind rest
    pure (if isMatch then object :: others else others)

/-- The only one of several objects that define the kind of a document. -/
def only (group : String) (doc : Document) : List Document → Except Failure Document
  | [] => .error (.noDefinition (.absent group doc.kind doc.namespace_))
  | [object] => .ok object
  | objects =>
    .error (.noReference
      (.ambiguous group doc.kind ((objects.map Document.name).mergeSort (· ≤ ·))))

/-- The place of the API description and the descriptor in an object. -/
def parts (object : Document) : Except Failure (String × Descriptor) := do
  let incomplete {α : Type} : Except Failure α → Except Failure α :=
    Except.mapError fun failure =>
      if failure.isField then .missingField failure.message ("definition " ++ object.name)
      else failure
  let url ← incomplete (object.string ["spec", "swaggerPath"])
  let described ← incomplete (object.map ["spec", "resource"])
  pure (url, ← Descriptor.ofValue (.map described))

/-- The definition for a document, as a value. -/
def toValue (definition : Definition) (credentials : Value) : Value :=
  .ofFields
    [("url", .text definition.url), ("resource", definition.descriptor.toValue),
      ("auth", credentials),
      ("owner_references", .list (definition.descriptor.owners.map OwnerRule.toValue)),
      ("verbose", .bool definition.isVerbose)]

variable {ω : Type} [World ω]

/-- The definition for a document among the objects of the cluster. -/
def ofCluster (doc : Document) : Work ω Definition := do
  let group := (← ofExcept doc.groupVersionKind).group
  let objects ← Cluster.list resource
    (if doc.namespace_.isEmpty then none else some doc.namespace_)
  let object ← ofExcept (do only group doc (← matching group doc.kind objects))
  let (url, descriptor) ← ofExcept (parts object)
  let credentials ← Authentication.resolve doc
  pure ⟨url, descriptor, credentials, ← ofExcept doc.isVerbose⟩

/-- The descriptor in a file; it is read once. -/
def fixedDescriptor (path : String) : Work ω Descriptor := do
  match (← get).descriptor with
  | some descriptor => pure descriptor
  | none =>
    match ← Work.file path with
    | .error fault =>
      throw (.configuration (.unreadableDescriptor path (fault.message path)))
    | .ok bytes =>
      let data ← ofExcept ((Yaml.readBytes bytes).mapError fun failure =>
        match failure with
        | .malformedDocument remark => .configuration (.malformedDescriptor path remark)
        | failure => failure)
      let descriptor ← ofExcept (Descriptor.ofValue data)
      modify fun session => { session with descriptor := some descriptor }
      pure descriptor

/-- The fixed definition for a document. -/
def ofFixed (url descriptorPath : String) (authenticates : Bool) (doc : Document) :
    Work ω Definition := do
  let descriptor ← fixedDescriptor descriptorPath
  if descriptor.kind != doc.kind then
    throw (.noDefinition (.otherKind descriptor.kind doc.kind))
  let credentials ← if authenticates then Authentication.resolve doc else pure none
  pure ⟨url, descriptor, credentials, ← ofExcept doc.isVerbose⟩

/-- The definition for a document. -/
def resolve (source : DefinitionSource) (doc : Document) : Work ω Definition :=
  match source with
  | .cluster => ofCluster doc
  | .fixed url descriptorPath authenticates => ofFixed url descriptorPath authenticates doc

end Definition

end Reconciler
