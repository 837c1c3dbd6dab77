import Reconciler.Secret
import Reconciler.Session

/-!
# The cluster client

Reading and writing objects of the cluster by the coordinates of their resource. Every call is counted
with its outcome; kinds are looked up anew each time, so that a kind that was just installed is found.
-/

namespace Reconciler.Cluster

variable {ω α : Type}

/-- A call that is counted with its outcome. -/
def metered (operation : String) (call : Work ω α) : Work ω α := do
  let outcome ← attempt call
  count (.calls .cluster operation (if outcome.isOk then .success else .error))
  count (.callTimes .cluster operation)
  ofExcept outcome

/-- Succeeds when kinds can be discovered. -/
def requireDiscovery (need : AbsentClient) : Work ω Unit := do
  if (← get).means.discovers then pure () else throw (.absentClient need)

/-- The document of an answer. -/
def documentOf (answer : Value) : Document :=
  .ofObject (match answer with | .null => .map [] | object => object)

variable [World ω]

/-- The resource coordinates of a kind. -/
def resourceOf (kind : GroupVersionKind) : Work ω GroupVersionResource := do
  requireDiscovery .discovery
  let name ← metered "discover" (Work.cluster (.discoverKind kind.apiVersion kind.kind))
  pure ⟨kind.group, kind.version, name⟩

/-- An object of the core group. -/
def readCore (resource : GroupVersionResource) (namespace_ name : String) : Work ω Document := do
  requireDiscovery .coreResources
  let found ← Work.cluster (.discoverName resource.version resource.resource)
  let place := if namespace_.isEmpty then none else some namespace_
  pure (documentOf (← metered "get" (Work.cluster (.getCore found name place))))

/-- An object. -/
def read (resource : GroupVersionResource) (namespace_ name : String) : Work ω Document :=
  if resource.group.isEmpty then readCore resource namespace_ name
  else do
    pure (documentOf (← metered "get" (Work.cluster (.get resource namespace_ name))))

/-- The map with a value under a key that it lacks. -/
def withDefault (fields : Fields) (name value : String) : Fields :=
  if fields.has (.text name) then fields else fields.set name (.text value)

/-- The text without an ending. -/
def withoutEnding (ending s : String) : String :=
  if ending.toList.isSuffixOf s.toList then
    String.ofList (s.toList.take (s.toList.length - ending.toList.length))
  else s

/-- The document of an item of a list, which takes the version and the kind that it lacks from the
list. -/
def listedDocument (apiVersion kind : String) (item : Value) : Except Failure Document :=
  match item with
  | .map fields =>
    let versioned := withDefault fields "apiVersion" apiVersion
    .ok (.ofObject (.map (if kind.isEmpty then versioned else withDefault versioned "kind" kind)))
  | v => .error (.shape (.noMember v.kind "setdefault"))

/-- The documents of a list. -/
def documentsOf (resource : GroupVersionResource) (answer : Value) :
    Except Failure (List Document) := do
  let items := (← answer.member "items").orElse (.list [])
  let kind := withoutEnding "List" (← answer.memberOr "kind" (.text "")).plain
  (← items.elements).mapM (listedDocument (joinVersion resource.group resource.version) kind)

/-- The objects of a namespace, or of the whole cluster. -/
def list (resource : GroupVersionResource) (namespace_ : Option String) :
    Work ω (List Document) := do
  let place := namespace_.filter fun name => !name.isEmpty
  ofExcept (documentsOf resource (← metered "list" (Work.cluster (.list resource place))))

/-- The coordinates of a document's resource. -/
def resourceOfDocument (doc : Document) : Work ω GroupVersionResource := do
  resourceOf (← ofExcept doc.groupVersionKind)

/-- Replaces an object by a document; the answer is what the cluster stored. -/
def update (doc : Document) : Work ω Document := do
  let resource ← resourceOfDocument doc
  pure (documentOf (← metered "update"
    (Work.cluster (.replace resource doc.namespace_ doc.name doc.object))))

/-- Replaces the observed state of an object by that of a document. -/
def updateStatus (doc : Document) : Work ω Document := do
  let resource ← resourceOfDocument doc
  pure (documentOf (← metered "update_status"
    (Work.cluster (.replaceStatus resource doc.namespace_ doc.name doc.object))))

/-- The place of a secret, as it is reported. -/
def secretPlace (namespace_ name : String) : String :=
  namespace_ ++ "/" ++ name

/-- The value under a key of the data of a secret. -/
def secretEntry (namespace_ name key : String) (data : Value) : Except Failure Value :=
  let absent : Except Failure Value :=
    .error (.missingField key ("secret " ++ secretPlace namespace_ name))
  match data.orElse (.map []) with
  | .map fields =>
    match Fields.get? fields key with
    | some value => .ok value
    | none => absent
  | .list items =>
    if items.any (·.equal (.text key)) then .error (.shape (.notIndexed "list")) else absent
  | .text s => if Text.contains s key then .error (.shape (.notIndexed "str")) else absent
  | v => .error (.shape (.notContainer v.kind))

/-- The text under a key of a secret. -/
def secretValue (namespace_ name key : String) : Work ω String := do
  match ← attempt (Work.cluster (.readSecret namespace_ name)) with
  | .error failure =>
    throw (if failure.isAbsent then .missingField "secret" (secretPlace namespace_ name) else failure)
  | .ok data => ofExcept ((secretEntry namespace_ name key data).bind Secret.decode)

/-- The text under a key of a secret, when secrets can be read. -/
def readSecret (namespace_ name key : String) : Work ω String := do
  if (← get).means.readsSecrets then metered "read_secret" (secretValue namespace_ name key)
  else throw (.absentClient .secrets)

end Reconciler.Cluster
