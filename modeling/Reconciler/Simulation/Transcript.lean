import Reconciler.Cluster.Recorder

/-!
# Transcripts

Calls to the world outside, as they are written down: by the name of the call and what it was called
with.
-/

namespace Reconciler

/-- A part of the world outside. -/
inductive Channel where
  /-- The cluster. -/
  | cluster
  /-- The wire. -/
  | wire
  /-- The chart engine. -/
  | charts
  /-- A handler of documents. -/
  | handler
deriving DecidableEq, Repr

/-- A call that was written down. -/
structure Transcribed where
  /-- The part of the world that was called. -/
  channel : Channel
  /-- The name of the call. -/
  name : String
  /-- What it was called with. -/
  arguments : Value

namespace Channel

/-- The name of a part of the world. -/
def text : Channel → String
  | .cluster => "kube"
  | .wire => "http"
  | .charts => "chart"
  | .handler => "backend"

/-- All parts of the world. -/
def all : List Channel :=
  [.cluster, .wire, .charts, .handler]

end Channel

namespace Transcribed

/-- The call as a value. -/
def toValue (call : Transcribed) : Value :=
  match call.channel with
  | .wire => .ofFields [(call.name, call.arguments)]
  | .handler =>
    .map (Fields.put (.text call.channel.text) (.text call.name)
      (call.arguments.fields?.getD []))
  | channel => .ofFields [(channel.text, .text call.name), ("args", call.arguments)]

/-- Several calls as a value, by the parts of the world. -/
def callsValue (calls : List Transcribed) : Value :=
  .ofFields (Channel.all.filterMap fun channel =>
    let made := calls.filter fun call => call.channel == channel
    if made.isEmpty then none else some (channel.text, .list (made.map toValue)))

end Transcribed

/-- A text, or nothing in the place of an empty one. -/
def textOrNull (s : String) : Value :=
  if s.isEmpty then .null else .text s

/-- The coordinates of a resource under their names. -/
def GroupVersionResource.parts (resource : GroupVersionResource) : List (String × Value) :=
  [("group", .text resource.group), ("version", .text resource.version),
    ("plural", .text resource.resource)]

/-- A notice under the names of its parts. -/
def Notice.parts (notice : Notice) : List (String × Value) :=
  [("namespace", .text notice.namespace_), ("generate_name", .text (notice.about.name ++ ".")),
    ("meta_namespace", .text notice.namespace_),
    ("involved",
      .list [.text notice.about.apiVersion, .text notice.about.kind, .text notice.about.name,
        textOrNull notice.about.namespace_, textOrNull notice.uid]),
    ("reason", .text notice.reason), ("message", .text notice.message),
    ("type", .text notice.type), ("component", .text notice.component), ("count", .int 1)]

namespace ClusterCall

/-- The name of a call to the cluster. -/
def name {α : Type} : ClusterCall α → String
  | .get _ place _ =>
    if place.isEmpty then "get_cluster_custom_object" else "get_namespaced_custom_object"
  | .list _ place =>
    if place.isNone then "list_cluster_custom_object" else "list_namespaced_custom_object"
  | .replace .. => "replace_namespaced_custom_object"
  | .replaceStatus .. => "replace_namespaced_custom_object_status"
  | .discoverKind .. | .discoverName .. => "discover"
  | .getCore .. => "core_get"
  | .readSecret .. => "read_namespaced_secret"
  | .post _ => "create_namespaced_event"

/-- What a write of an object is called with. -/
def writeParts (resource : GroupVersionResource) (place name : String) (body : Value) :
    List (String × Value) :=
  resource.parts ++
    [("namespace", .text place), ("name", .text name), ("body", body),
      ("field_manager", .text operatorName)]

/-- What a call to the cluster is called with. -/
def parts {α : Type} : ClusterCall α → List (String × Value)
  | .get resource place name =>
    resource.parts ++ (if place.isEmpty then [] else [("namespace", .text place)]) ++
      [("name", .text name)]
  | .list resource place =>
    resource.parts ++ (place.map fun place => ("namespace", Value.text place)).toList
  | .replace resource place name body | .replaceStatus resource place name body =>
    writeParts resource place name body
  | .discoverKind apiVersion kind => [("api_version", .text apiVersion), ("kind", .text kind)]
  | .discoverName apiVersion name => [("api_version", .text apiVersion), ("name", .text name)]
  | .getCore resource name place =>
    [("plural", .text resource), ("name", .text name),
      ("namespace", (place.map Value.text).getD .null)]
  | .readSecret place name => [("namespace", .text place), ("name", .text name)]
  | .post notice => notice.parts

/-- A call to the cluster, written down. -/
def transcribed {α : Type} (call : ClusterCall α) : Transcribed :=
  ⟨.cluster, call.name, .ofFields call.parts⟩

end ClusterCall

/-- Credentials as a value. -/
def Credentials.toValue : Credentials → Value
  | .bearer token => .ofFields [("type", .text "BearerAuth"), ("token", .text token)]
  | .basic username password =>
    .ofFields
      [("type", .text "BasicAuth"), ("username", .text username), ("password", .text password)]

/-- A call over the wire, written down. -/
def WireCall.transcribed : WireCall → Transcribed
  | .send request =>
    let query := if request.query.isEmpty then .null else request.query.toValue
    ⟨.wire, "http", .ofFields
      ([("method", .text request.method), ("url", .text request.url), ("params", query),
        ("timeout", request.timeout.toValue),
        ("auth", (request.credentials.map Credentials.toValue).getD .null)] ++
        (request.body.map fun body => ("json", Value.map body)).toList)⟩
  | .download url timeout =>
    ⟨.wire, "download", .ofFields [("url", .text url), ("timeout", timeout.toValue)]⟩

/-- A release as a value. -/
def Release.toValue (release : Release) : Value :=
  .ofFields
    [("chart", .ofFields
        [("url", .text release.chart.url), ("version", .text release.chart.version),
          ("repo", .text release.chart.repo)]),
      ("release_name", .text release.name), ("namespace", .text release.namespace_)]

namespace ChartCall

/-- The name of a call to the chart engine. -/
def name {α : Type} : ChartCall α → String
  | .info _ => "chart_info"
  | .find .. => "find_release"
  | .install .. => "install_or_upgrade"
  | .render .. => "template_render"
  | .uninstall _ => "uninstall"

/-- What a call to the chart engine is called with. -/
def arguments {α : Type} : ChartCall α → List Value
  | .info document => [.text document.name]
  | .find name place => [.text name, .text place]
  | .install release values | .render release values => [release.toValue, .map values]
  | .uninstall release => [release.toValue]

/-- A call to the chart engine, written down. -/
def transcribed {α : Type} (call : ChartCall α) : Transcribed :=
  ⟨.charts, call.name, .list call.arguments⟩

end ChartCall

end Reconciler
