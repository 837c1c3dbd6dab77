import Reconciler.Quantity
import Reconciler.Value.Access

/-!
# Settings

The settings of the operator from environment variables. A value that cannot be read gives way to the
default with a warning; a resource that is not fully named is a failure.
-/

namespace Reconciler

/-- The environment variables. -/
abbrev Environment := List (String × String)

/-- A setting and the warnings that its reading gave. -/
structure Setting (α : Type) where
  /-- The setting. -/
  value : α
  /-- The warnings. -/
  warnings : List String

namespace Environment

/-- The trimmed value of a variable, empty when it is not set. -/
def raw (env : Environment) (name : String) : String :=
  Text.trim ((env.lookup name).getD "")

/-- The value of a variable, the default when it is empty. -/
def string (env : Environment) (name default : String) : String :=
  if (env.raw name).isEmpty then default else env.raw name

/-- The default, with a warning about the value that cannot be read. -/
def refused {α : Type} (kind name raw shown : String) (default : α) : Setting α :=
  ⟨default, [s!"Invalid {kind} for {name}: " ++ Text.quoted raw ++ ", using " ++ shown]⟩

/-- The whole number in a variable. -/
def whole (env : Environment) (name : String) (default : Int) : Setting Int :=
  let raw := env.raw name
  if raw.isEmpty then ⟨default, []⟩
  else
    match wholeOfText? raw with
    | some n => ⟨n, []⟩
    | none => refused "integer" name raw (toString default) default

/-- The truth value in a variable. -/
def flag (env : Environment) (name : String) (default : Bool) : Setting Bool :=
  let raw := Text.lower (env.raw name)
  if raw.isEmpty then ⟨default, []⟩
  else if ["1", "true", "yes", "on"].contains raw then ⟨true, []⟩
  else if ["0", "false", "no", "off"].contains raw then ⟨false, []⟩
  else refused "boolean" name raw (Scalar.bool default).literal default

/-- The number of seconds that a unit of time lasts. -/
def unitSeconds? (unit : List Char) : Option Float :=
  if unit == ['m', 's'] then some 0.001
  else if unit.isEmpty || unit == ['s'] then some 1.0
  else if unit == ['m'] then some 60.0
  else if unit == ['h'] then some 3600.0
  else none

/-- The value of the digits of a number. -/
def digitsNumber (digits : List Char) : Nat :=
  digits.foldl (fun n c => 10 * n + (Text.digitValue? c).getD 0) 0

/-- The seconds that a text states: a number, with a fraction or without, and a unit of time. -/
def seconds? (s : String) : Option Float :=
  let cs := s.toList.dropWhile Text.isBlank
  let whole := cs.takeWhile Text.isDecimalDigit
  let rest := cs.dropWhile Text.isDecimalDigit
  let (fraction, rest) :=
    match rest with
    | '.' :: more =>
      if (more.takeWhile Text.isDecimalDigit).isEmpty then ([], rest)
      else (more.takeWhile Text.isDecimalDigit, more.dropWhile Text.isDecimalDigit)
    | _ => ([], rest)
  let rest := rest.dropWhile Text.isBlank
  let unit := rest.takeWhile fun c => !Text.isBlank c
  if whole.isEmpty || !(rest.drop unit.length).all Text.isBlank then none
  else
    (unitSeconds? unit).map fun size =>
      Decimal.nearest false (digitsNumber (whole ++ fraction)) (-fraction.length) * size

/-- The duration in a variable, in seconds. -/
def duration (env : Environment) (name : String) (default : Number) : Setting Number :=
  let raw := Text.lower (env.raw name)
  if raw.isEmpty then ⟨default, []⟩
  else
    match seconds? raw with
    | some seconds => ⟨.float seconds, []⟩
    | none => refused "duration" name raw (default.toValue.plain ++ "s") default

end Environment

/-- The settings of an operator, which watches one kind of resource. -/
structure Settings where
  /-- The group of the watched resource. -/
  group : String
  /-- The version of the watched resource. -/
  version : String
  /-- The plural name of the watched resource. -/
  resource : String
  /-- The watched namespace. -/
  namespace_ : String
  /-- The number of workers. -/
  workers : Int
  /-- The seconds between two rounds over all known resources. -/
  resyncInterval : Number
  /-- The number of retries before an event is dropped. -/
  maxRetries : Int
  /-- The seconds before an external resource is created. -/
  createDelay : Number
  /-- Everything is logged. -/
  debug : Bool
  /-- The location of a fixed API description. -/
  apiDescription : String
  /-- The file of a fixed resource descriptor. -/
  resourceDescriptor : String
  /-- The seconds that a request may take. -/
  requestTimeout : Number
  /-- The seconds that a loaded API description is kept. -/
  descriptionCacheTtl : Number
  /-- The number of the socket on which health and metrics are served. -/
  healthSocket : Int

namespace Settings

/-- The watched resource. -/
def watched (settings : Settings) : GroupVersionResource :=
  ⟨settings.group, settings.version, settings.resource⟩

/-- The API description and the resource descriptor are fixed. -/
def hasFixedDefinition (settings : Settings) : Bool :=
  !settings.apiDescription.isEmpty && !settings.resourceDescriptor.isEmpty

/-- Succeeds on settings that name a resource, and either both files of a fixed definition or none. -/
def validate (settings : Settings) : Except Failure Unit :=
  let missing :=
    [("CONTROLLER_VERSION", settings.version), ("CONTROLLER_RESOURCE", settings.resource)].filter
      fun entry => entry.2.isEmpty
  if !missing.isEmpty then .error (.configuration (.missingSettings (missing.map Prod.fst)))
  else if settings.apiDescription.isEmpty != settings.resourceDescriptor.isEmpty then
    .error (.configuration .unpairedFiles)
  else .ok ()

/-- The names of the variables that settings are read from. -/
def names : List String :=
  ["CONTROLLER_GROUP", "CONTROLLER_VERSION", "CONTROLLER_RESOURCE", "CONTROLLER_NAMESPACE",
    "CONTROLLER_WORKERS", "CONTROLLER_RESYNC_INTERVAL", "CONTROLLER_MAX_RETRIES",
    "CONTROLLER_CREATE_DELAY", "CONTROLLER_DEBUG", "CONTROLLER_API_DESCRIPTION",
    "CONTROLLER_RESOURCE_DESCRIPTOR", "CONTROLLER_REQUEST_TIMEOUT",
    "CONTROLLER_DESCRIPTION_CACHE_TTL", "METRICS_PORT"]

/-- The settings in an environment; underscores in the version stand for dashes. -/
def ofEnvironment (env : Environment) : Except Failure (Setting Settings) := do
  let workers := env.whole "CONTROLLER_WORKERS" 1
  let resync := env.duration "CONTROLLER_RESYNC_INTERVAL" (.float 180.0)
  let retries := env.whole "CONTROLLER_MAX_RETRIES" 5
  let delay := env.duration "CONTROLLER_CREATE_DELAY" (.float 3.0)
  let debug := env.flag "CONTROLLER_DEBUG" false
  let timeout := env.duration "CONTROLLER_REQUEST_TIMEOUT" (.float 30.0)
  let ttl := env.duration "CONTROLLER_DESCRIPTION_CACHE_TTL" (.float 30.0)
  let socket := env.whole "METRICS_PORT" 8080
  let settings : Settings :=
    { group := env.string "CONTROLLER_GROUP" ""
      version := Text.replace "_" "-" (env.string "CONTROLLER_VERSION" "")
      resource := env.string "CONTROLLER_RESOURCE" ""
      namespace_ := env.string "CONTROLLER_NAMESPACE" "default"
      workers := max 1 workers.value
      resyncInterval := resync.value
      maxRetries := max 0 retries.value
      createDelay := delay.value
      debug := debug.value
      apiDescription := env.string "CONTROLLER_API_DESCRIPTION" ""
      resourceDescriptor := env.string "CONTROLLER_RESOURCE_DESCRIPTOR" ""
      requestTimeout := timeout.value
      descriptionCacheTtl := ttl.value
      healthSocket := socket.value }
  settings.validate
  pure ⟨settings, workers.warnings ++ resync.warnings ++ retries.warnings ++ delay.warnings ++
    debug.warnings ++ timeout.warnings ++ ttl.warnings ++ socket.warnings⟩

/-- The settings under their names. -/
def toFields (settings : Settings) : List (String × Value) :=
  [("group", .text settings.group), ("version", .text settings.version),
    ("resource", .text settings.resource), ("namespace", .text settings.namespace_),
    ("workers", .int settings.workers), ("resync_interval", settings.resyncInterval.toValue),
    ("max_retries", .int settings.maxRetries), ("create_delay", settings.createDelay.toValue),
    ("debug", .bool settings.debug), ("api_description", .text settings.apiDescription),
    ("resource_descriptor", .text settings.resourceDescriptor),
    ("request_timeout", settings.requestTimeout.toValue),
    ("description_cache_ttl", settings.descriptionCacheTtl.toValue),
    ("metrics_port", .int settings.healthSocket)]

end Settings

end Reconciler
