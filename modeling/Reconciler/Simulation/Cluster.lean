import Reconciler.Simulation.Transcript

/-!
# A simulated cluster

Objects under the coordinates of their resource, their namespace and their name, in the order in which
they were stored. Writes replace the whole object under a new version. Faults can be planned for
single calls.
-/

namespace Reconciler.Simulation

/-- An object in the cluster. -/
structure StoredObject where
  /-- The coordinates of its resource. -/
  resource : GroupVersionResource
  /-- The namespace, empty for an object of the whole cluster. -/
  namespace_ : String
  /-- The name. -/
  name : String
  /-- The object. -/
  object : Value

namespace StoredObject

/-- The object in its place. -/
def ofObject (resource : GroupVersionResource) (object : Value) : StoredObject :=
  let metadata := ((object.get? "metadata").bind Value.fields?).getD []
  let part (name : String) : String := (((metadata.get? name).getD .null).orElse (.text "")).plain
  ⟨resource, part "namespace", part "name", object⟩

/-- The objects are in the same place. -/
def samePlace (a b : StoredObject) : Bool :=
  a.resource == b.resource && a.namespace_ == b.namespace_ && a.name == b.name

end StoredObject

/-- A planned failure of a call. -/
structure Fault where
  /-- The name of the call. -/
  call : String
  /-- The name of the object that is asked for, if it matters. -/
  name : Option String
  /-- The number of calls that are let through. -/
  skip : Nat
  /-- The number of calls that fail. -/
  times : Nat
  /-- The failure. -/
  failure : Failure

namespace Fault

/-- The fault is planned for a call. -/
def isFor (fault : Fault) (call : Transcribed) : Bool :=
  fault.call == call.name && fault.times != 0 &&
    (match fault.name with
      | none => true
      | some name => ((call.arguments.get? "name").bind Value.text?) == some name)

/-- The failure of a call, if one is planned, and the faults that are left. -/
def strike (call : Transcribed) : List Fault → Option Failure × List Fault
  | [] => (none, [])
  | fault :: rest =>
    if !fault.isFor call then
      let (failure, rest) := strike call rest
      (failure, fault :: rest)
    else if fault.skip != 0 then
      let (failure, rest) := strike call rest
      (failure, { fault with skip := fault.skip - 1 } :: rest)
    else (some fault.failure, { fault with times := fault.times - 1 } :: rest)

end Fault

/-- A kind that can be discovered. -/
structure ServedKind where
  /-- The group and version. -/
  apiVersion : String
  /-- The kind. -/
  kind : String
  /-- The plural resource name. -/
  resource : String
deriving DecidableEq, Repr

/-- A secret. -/
structure StoredSecret where
  /-- The namespace. -/
  namespace_ : String
  /-- The name. -/
  name : String
  /-- The data. -/
  data : Value

/-- A simulated cluster. -/
structure Cluster where
  /-- The objects. -/
  objects : List StoredObject
  /-- The version that was given last. -/
  version : Nat
  /-- The kinds that lists of a resource state. -/
  listKinds : Bindings
  /-- The answers that lists of a resource are given in the place of its objects. -/
  listAnswers : List (String × Value)
  /-- The kinds that can be discovered. -/
  kinds : List ServedKind
  /-- The objects of the core group, by their plural resource names. -/
  coreObjects : List (String × Value)
  /-- The secrets. -/
  secrets : List StoredSecret
  /-- The planned faults. -/
  faults : List Fault

namespace Cluster

/-- The objects with one stored: in its place, or at the end for a new one. -/
def store (stored : StoredObject) : List StoredObject → List StoredObject
  | [] => [stored]
  | o :: rest => if o.samePlace stored then stored :: rest else o :: store stored rest

/-- The cluster with an object stored. -/
def put (cluster : Cluster) (stored : StoredObject) : Cluster :=
  { cluster with objects := store stored cluster.objects }

/-- The cluster without the object in a place, and whether there was one. -/
def remove (cluster : Cluster) (place : StoredObject) : Bool × Cluster :=
  (cluster.objects.any (·.samePlace place),
    { cluster with objects := cluster.objects.filter fun o => !o.samePlace place })

/-- The failure of a call for something that does not exist. -/
def absent {α : Type} : Except Failure α :=
  .error (.cluster (some 404) "Not Found")

/-- The object in a place. -/
def objectAt (cluster : Cluster) (resource : GroupVersionResource) (place name : String) :
    Except Failure Value :=
  let wanted : StoredObject := ⟨resource, place, name, .null⟩
  match cluster.objects.find? (·.samePlace wanted) with
  | some stored => .ok stored.object
  | none => absent

/-- The answer to a list. -/
def listing (cluster : Cluster) (resource : GroupVersionResource) (place : Option String) : Value :=
  match cluster.listAnswers.lookup resource.resource with
  | some answer => answer
  | none =>
    let found := cluster.objects.filter fun o =>
      o.resource == resource && (place.isNone || place == some o.namespace_)
    .ofFields
      (("items", .list (found.map StoredObject.object)) ::
        ((cluster.listKinds.get? resource.resource).map fun kind => ("kind", Value.text kind)).toList)

/-- The object with a version. -/
def versioned (version : Nat) (object : Value) : Value :=
  match object.write ["metadata", "resourceVersion"] (.text (toString version)) with
  | .ok object => object
  | .error _ => object

/-- The cluster after an object was replaced, and what was stored. -/
def replaced (cluster : Cluster) (resource : GroupVersionResource) (place name : String)
    (body : Value) : Except Failure Value × Cluster :=
  match cluster.objectAt resource place name with
  | .error failure => (.error failure, cluster)
  | .ok _ =>
    let version := cluster.version + 1
    let object := versioned version body
    (.ok object, { cluster with version }.put ⟨resource, place, name, object⟩)

/-- The object of the core group with a name in a namespace. -/
def coreObject (cluster : Cluster) (resource name : String) (place : Option String) :
    Except Failure Value :=
  let metadata (object : Value) (part : String) : Value :=
    (((object.get? "metadata").bind fun m => m.get? part)).getD .null
  let found := cluster.coreObjects.find? fun (plural, object) =>
    plural == resource && (metadata object "name").equal (.text name) &&
      (metadata object "namespace").equal ((place.map Value.text).getD .null)
  match found with
  | some (_, object) => .ok object
  | none => absent

/-- The resource name of the first kind with a property. -/
def discovered (cluster : Cluster) (agrees : ServedKind → Bool) : Except Failure String :=
  match cluster.kinds.find? agrees with
  | some kind => .ok kind.resource
  | none => .error .kindNotServed

/-- The data of a secret. -/
def secretData (cluster : Cluster) (place name : String) : Except Failure Value :=
  match cluster.secrets.find? fun secret => secret.namespace_ == place && secret.name == name with
  | some secret => .ok secret.data
  | none => absent

/-- The answer to a call that is let through, and the cluster after it. -/
def answered {α : Type} (cluster : Cluster) : ClusterCall α → Except Failure α × Cluster
  | .get resource place name => (cluster.objectAt resource place name, cluster)
  | .list resource place => (.ok (cluster.listing resource place), cluster)
  | .replace resource place name body | .replaceStatus resource place name body =>
    cluster.replaced resource place name body
  | .discoverKind apiVersion kind =>
    (cluster.discovered fun served => served.apiVersion == apiVersion && served.kind == kind,
      cluster)
  | .discoverName apiVersion name =>
    (cluster.discovered fun served => served.apiVersion == apiVersion && served.resource == name,
      cluster)
  | .getCore resource name place => (cluster.coreObject resource name place, cluster)
  | .readSecret place name => (cluster.secretData place name, cluster)
  | .post _ => (.ok (), cluster)

/-- The answer to a call, and the cluster after it. -/
def answer {α : Type} (cluster : Cluster) (call : ClusterCall α) : Except Failure α × Cluster :=
  match Fault.strike call.transcribed cluster.faults with
  | (some failure, faults) => (.error failure, { cluster with faults })
  | (none, faults) => { cluster with faults }.answered call

end Cluster

end Reconciler.Simulation
