import Reconciler.Backend.Credentials
import Reconciler.Backend.Descriptor
import Reconciler.Document.Basic
import Reconciler.Quantity
import Reconciler.Text.Utf8

/-!
# The world outside

What the operator asks of others: the cluster, backends over the wire, the chart engine, files, clocks
and fresh identifiers. Whatever answers is a state that each call may change.
-/

namespace Reconciler

/-- A notice about an object, as it is posted to the cluster. -/
structure Notice where
  /-- The namespace of the notice. -/
  namespace_ : String
  /-- The object that the notice is about. -/
  about : ObjectRef
  /-- The identity of the object, empty when it is not known. -/
  uid : String
  /-- The reason in one word. -/
  reason : String
  /-- The message for a reader. -/
  message : String
  /-- The type: normal or warning, in words. -/
  type : String
  /-- The component that posts. -/
  component : String
deriving DecidableEq, Repr

/-- A call to the cluster, by the type of its answer. -/
inductive ClusterCall : Type → Type where
  /-- Reads an object; the namespace of an object of the whole cluster is empty. -/
  | get (resource : GroupVersionResource) (namespace_ name : String) : ClusterCall Value
  /-- Lists the objects of a namespace, or of the whole cluster. -/
  | list (resource : GroupVersionResource) (namespace_ : Option String) : ClusterCall Value
  /-- Replaces an object. -/
  | replace (resource : GroupVersionResource) (namespace_ name : String) (body : Value) :
    ClusterCall Value
  /-- Replaces the observed state of an object. -/
  | replaceStatus (resource : GroupVersionResource) (namespace_ name : String) (body : Value) :
    ClusterCall Value
  /-- Finds the resource name of a kind. -/
  | discoverKind (apiVersion kind : String) : ClusterCall String
  /-- Finds the resource with a name. -/
  | discoverName (apiVersion name : String) : ClusterCall String
  /-- Reads an object of the core group. -/
  | getCore (resource name : String) (namespace_ : Option String) : ClusterCall Value
  /-- Reads the data of a secret. -/
  | readSecret (namespace_ name : String) : ClusterCall Value
  /-- Posts a notice. -/
  | post (notice : Notice) : ClusterCall Unit

/-- A request over the wire. -/
structure HttpRequest where
  /-- The method. -/
  method : String
  /-- The address. -/
  url : String
  /-- The query parameters. -/
  query : Bindings
  /-- The seconds that the answer may take. -/
  timeout : Number
  /-- The credentials. -/
  credentials : Option Credentials
  /-- The body, for requests that carry one. -/
  body : Option Fields

/-- An answer over the wire. Which text the bytes of its body are, the header of the answer says, or it is
guessed from them; for JSON it is guessed by rules of its own. So an answer comes with both texts, and
either one is any text with a UTF-8 form. -/
structure HttpResponse where
  /-- The status. -/
  status : Int
  /-- The bytes of the body. -/
  body : List UInt8
  /-- The text that the body is read as. -/
  text : String
  /-- The text that the body is read as where JSON is expected. -/
  json : String
  /-- The reason beside the status. -/
  reason : Option String
  /-- The address that answered, empty when it is not known. -/
  url : String

/-- The answer with a body in UTF-8. -/
def HttpResponse.ofUtf8 (status : Int) (body : List UInt8) (reason : Option String) (url : String) :
    HttpResponse :=
  { status, body, text := Text.Utf8.decode body, json := Text.Utf8.decode body, reason, url }

/-- A call over the wire. -/
inductive WireCall where
  /-- Sends a request to a backend. -/
  | send (request : HttpRequest)
  /-- Downloads what an address holds. -/
  | download (url : String) (timeout : Number)

/-- Why a file cannot be read. -/
inductive FileFault where
  /-- It does not exist. -/
  | absent
  /-- It is a directory. -/
  | directory
  /-- A step before the last leads to a file. -/
  | notDirectory
deriving DecidableEq, Repr

/-- The message about a file that cannot be read. -/
def FileFault.message (path : String) : FileFault → String
  | .absent => "[Errno 2] No such file or directory: " ++ Text.quoted path
  | .directory => "[Errno 21] Is a directory: " ++ Text.quoted path
  | .notDirectory => "[Errno 20] Not a directory: " ++ Text.quoted path

/-- The place and version of a chart. -/
structure ChartInfo where
  /-- The address. -/
  url : String
  /-- The version, empty for the newest. -/
  version : String
  /-- The repository. -/
  repo : String
deriving DecidableEq, Repr

/-- A release of a chart. -/
structure Release where
  /-- The chart. -/
  chart : ChartInfo
  /-- The name of the release. -/
  name : String
  /-- The namespace of the release. -/
  namespace_ : String
deriving DecidableEq, Repr

/-- A call to the chart engine, by the type of its answer. -/
inductive ChartCall : Type → Type where
  /-- Says which chart is deployed for a resource. -/
  | info (document : Document) : ChartCall ChartInfo
  /-- Succeeds when a release exists. -/
  | find (name namespace_ : String) : ChartCall Unit
  /-- Installs a release, or upgrades it when it exists. -/
  | install (release : Release) (values : Fields) : ChartCall Unit
  /-- Renders the manifest of a release. -/
  | render (release : Release) (values : Fields) : ChartCall (List UInt8)
  /-- Removes a release. -/
  | uninstall (release : Release) : ChartCall Unit

/-- States of the world outside. -/
class World (ω : Type) where
  /-- The answer of the cluster. -/
  cluster {α : Type} : ClusterCall α → ω → Except Failure α × ω
  /-- The answer over the wire. -/
  wire : WireCall → ω → Except Failure HttpResponse × ω
  /-- The answer of the chart engine. -/
  chart {α : Type} : ChartCall α → ω → Except Failure α × ω
  /-- The bytes of a file. -/
  file : ω → String → Except FileFault (List UInt8)
  /-- The time of day, in its interchange form. -/
  wallClock : ω → String
  /-- The seconds on a clock that is never set. -/
  steadyClock : ω → Number
  /-- An identifier that was not handed out before. -/
  freshId : ω → String × ω

end Reconciler
