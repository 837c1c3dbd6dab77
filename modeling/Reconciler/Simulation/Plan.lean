import Reconciler.Calendar
import Reconciler.Json.Writer
import Reconciler.Operator.Basic
import Reconciler.Simulation.Basic
import Reconciler.Value.Size

/-!
# Plans

A plan says what a simulated world holds and what it answers. It is a value whose members are looked
up by their names; what a plan leaves out, or gives in another shape, has its usual value.
-/

namespace Reconciler.Plan

/-- A member of a plan. -/
def part (plan : Value) (name : String) : Value :=
  (plan.get? name).getD .null

/-- The plan has a member of the name. -/
def has (plan : Value) (name : String) : Bool :=
  (plan.get? name).isSome

/-- A text, if it is planned. -/
def text? (plan : Value) (name : String) : Option String :=
  (part plan name).text?

/-- A text, empty unless it is planned. -/
def text (plan : Value) (name : String) : String :=
  (text? plan name).getD ""

/-- The items of a list. -/
def items (plan : Value) (name : String) : List Value :=
  (part plan name).items?.getD []

/-- The fields of a map. -/
def fields (plan : Value) (name : String) : Fields :=
  (part plan name).fields?.getD []

/-- The texts of a list. -/
def texts (plan : Value) (name : String) : List String :=
  (items plan name).filterMap Value.text?

/-- The fields of a map under their names, each read on its own. -/
def named {α : Type} (read : Value → α) (plan : Value) (name : String) : List (String × α) :=
  (fields plan name).map fun (key, value) => (key.plain, read value)

/-- The texts of a map. -/
def bindings (plan : Value) (name : String) : Bindings :=
  named Value.plain plan name

/-- The whole number that a value is or holds. -/
def whole? : Value → Option Int
  | .int n => some n
  | .bool b => some (if b then 1 else 0)
  | .float x =>
    match Decimal.read x with
    | .finite d => some d.truncate
    | _ => none
  | _ => none

/-- A whole number. -/
def whole (plan : Value) (name : String) (usual : Int) : Int :=
  (whole? (part plan name)).getD usual

/-- A whole number that is not negative. -/
def count (plan : Value) (name : String) (usual : Int) : Nat :=
  (whole plan name usual).toNat

/-- A truth value. -/
def flag (plan : Value) (name : String) (usual : Bool) : Bool :=
  match part plan name with
  | .bool b => b
  | _ => usual

/-- A number. -/
def number (plan : Value) (name : String) (usual : Number) : Number :=
  (Number.ofValue? (part plan name)).getD usual

/-- A level of log lines. -/
def level (plan : Value) (name : String) (usual : Level) : Level :=
  ((text? plan name).bind Level.ofText?).getD usual

/-- A reference to an object. -/
def ref (plan : Value) (name : String) : ObjectRef :=
  ObjectRef.ofFields (fields plan name)

/-- A sequence of bytes, given by their numbers. -/
def bytes (plan : Value) (name : String) : List UInt8 :=
  (items plan name).filterMap fun item => (whole? item).map fun n => UInt8.ofNat n.toNat

/-- Coordinates that are given by a group, a version and a plural name. -/
def coordinates (plan : Value) (name : String) : GroupVersionResource :=
  match (items plan name).map Value.plain with
  | [group, version, resource] => ⟨group, version, resource⟩
  | _ => ⟨"", "", ""⟩

/-- A time of day, given by the seconds since the beginning of 1970. -/
def timeText (seconds : Number) : String :=
  let micros :=
    match seconds with
    | .whole n => n * 1000000
    | .float x => (whole? (.float (x * 1000000.0))).getD 0
  (Timestamp.ofEpochMicros micros).interchange

/-- The time of day at which simulations begin. -/
def startSeconds : Number :=
  .whole 1704067200

/-- A planned failure. -/
def failure (plan : Value) : Failure :=
  let message := text plan "message"
  let status := whole? (part plan "status")
  match text plan "kind" with
  | "OperatorError" => .operator message
  | "ConfigurationError" => .configuration (.reported message)
  | "UnresolvedActionError" => .unresolvedAction (text plan "action") (text? plan "on_kind")
  | "OperationNotFoundError" => .operationNotFound (text plan "method") (text plan "path")
  | "NoSuccessCodeError" => .noSuccessCode (text plan "method") (text plan "path")
  | "NoReferenceFoundError" => .noReference (.reported message)
  | "DefinitionNotFoundError" => .noDefinition (.reported message)
  | "MissingFieldError" => .missingField (text plan "field") (text plan "where")
  | "LoadError" => .load (.reported message)
  | "ValidationError" => .validation (.reported message)
  | "TransportError" => .transport (.reported message) status
  | "APIError" =>
    .backend ⟨status, message, text plan "type_key", whole plan "error_code" 0,
      whole plan "event_id" 0⟩
  | "NotFoundError" => .notFound message
  | "DriftError" => .drift (texts plan "fields")
  | "ReleaseNotFoundError" => .releaseNotFound message
  | "FieldNotFoundError" => .fieldNotFound (texts plan "path")
  | "FieldTypeError" => .fieldType (texts plan "path") (text plan "expected") (part plan "got")
  | "NotAvailableError" =>
    .notAvailable ((part plan "ref").fields?.map ObjectRef.ofFields) (text plan "reason")
  | "ApiException" => .cluster status (part plan "reason").plain
  | "ConnectionError" => .exchange .connection message
  | "Timeout" => .exchange .timeout message
  | "TooManyRedirects" => .exchange .redirects message
  | "ValueError" => .invalid message
  | "RuntimeError" => .impossible message
  | _ => .other message

/-- The failure that a member of a plan asks for. -/
def raised? (plan : Value) : Option Failure :=
  if has plan "raise" then some (failure (part plan "raise")) else none

/-- A planned outcome: a failure, or else what is read from the plan. -/
def outcome {α : Type} (read : Value → α) (plan : Value) : Except Failure α :=
  match raised? plan with
  | some failure => .error failure
  | none => .ok (read plan)

/-- A planned answer over the wire, whose body is a text or a value in JSON. -/
def response (plan : Value) : HttpResponse :=
  let body := if has plan "json" then Json.text true (part plan "json") else text plan "text"
  .ofUtf8 (whole plan "status" 200) (Text.Utf8.encode body) (text? plan "reason") (text plan "url")

/-- Credentials. -/
def credentials? (plan : Value) : Option Credentials :=
  match text? plan "bearer", texts plan "basic" with
  | some token, _ => some (.bearer token)
  | none, [username, password] => some (.basic username password)
  | none, _ => none

/-- An object of the cluster in its place. -/
def storedObject (plan : Value) : Simulation.StoredObject :=
  .ofObject ⟨text plan "group", text plan "version", text plan "plural"⟩ (part plan "object")

/-- A fault of the cluster. -/
def fault (plan : Value) : Simulation.Fault where
  call := text plan "call"
  name := text? plan "name"
  skip := count plan "skip" 0
  times := count plan "times" 1
  failure := failure (part plan "raise")

/-- A cluster. -/
def cluster (plan : Value) : Simulation.Cluster where
  objects :=
    (items plan "objects").foldl
      (fun all object => Simulation.Cluster.store (storedObject object) all) []
  version := 100
  listKinds := bindings plan "list_kinds"
  listAnswers := named id plan "list_results"
  kinds := (items plan "discovery").map fun kind =>
    ⟨text kind "apiVersion", text kind "kind", text kind "plural"⟩
  coreObjects := (items plan "core_objects").map fun object =>
    (text object "plural", part object "object")
  secrets := (items plan "secrets").map fun secret =>
    ⟨text secret "namespace", text secret "name", part secret "data"⟩
  faults := (items plan "faults").map fault

/-- The usual chart. -/
def usualChart : ChartInfo :=
  ⟨"oci://charts.example.org/demo", "1.2.3", ""⟩

/-- A chart engine. -/
def charts (plan : Value) : SimulatedCharts where
  releases := (items plan "releases").filterMap fun release =>
    match (release.items?.getD []).map Value.plain with
    | [name, place] => some (name, place)
    | _ => none
  manifest := text plan "manifest"
  info :=
    if has plan "info" then
      let info := part plan "info"
      ⟨text info "url", text info "version", text info "repo"⟩
    else usualChart
  failures := named failure plan "errors"

/-- A simulated world. -/
def world (plan : Value) : Simulation where
  cluster := cluster plan
  responses := (items plan "responses").map (outcome response)
  downloads := named (outcome response) plan "downloads"
  charts := charts (part plan "chart")
  files := bindings plan "files"
  wallClock := timeText startSeconds
  steadyClock := number plan "start" (.float 0.0)
  identifiers := 0
  outcomes := named (fun list => (list.items?.getD []).map (outcome id)) plan "outcomes"
  transcript := []

/-- A session in a simulated world. -/
def session (plan : Value) (threshold : Level) (traces : Bool) : Session Simulation where
  world := world plan
  telemetry := .start threshold traces
  means := ⟨flag plan "dynamic" true, flag plan "core" true⟩
  descriptions := .empty (number plan "description_ttl" (.float 30.0))
  descriptor := none

/-- A number among the settings of a limiter. -/
def limiterNumber (plan : Value) (place : Nat) (usual : Number) : Number :=
  (((items plan "args")[place]?).bind Number.ofValue?).getD usual

/-- A limiter, with limiters inside it up to a depth. -/
def limiterWithin {ι : Type} (now : Number) : Nat → Value → RateLimiter ι Number
  | 0, _ => .standard now
  | depth + 1, plan =>
    match text plan "kind" with
    | "exp" => .ofBackoff (limiterNumber plan 0 (.float 3.0)) (limiterNumber plan 1 (.float 180.0))
    | "bucket" =>
      .bucket (.full (limiterNumber plan 0 (.float 10.0)) (limiterNumber plan 1 (.whole 100)) now)
    | "max" => .longest ((items plan "of").map (limiterWithin now depth))
    | _ => .standard now

/-- A limiter. -/
def limiter {ι : Type} (now : Number) (plan : Value) : RateLimiter ι Number :=
  limiterWithin now plan.size plan

end Reconciler.Plan
