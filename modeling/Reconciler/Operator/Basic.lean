import Reconciler.Controller.Running
import Reconciler.Reconciliation.Rest
import Reconciler.Settings

/-!
# The operator

How the parts of the operator are put together from its settings. The external resources behind the
watched resource are served by a REST backend, whose definitions are fixed when the settings name
their files, and found in the cluster otherwise.
-/

namespace Reconciler

/-- What is logged, and by whom. -/
structure LogSetup where
  /-- The least level that is logged. -/
  threshold : Level
  /-- The least level of components that log too much otherwise. -/
  quiet : List (String × Level)
deriving DecidableEq, Repr

namespace LogSetup

/-- The components that log every request. -/
def noisyComponents : List String :=
  ["urllib3", "kubernetes.client.rest", "kopf.objects"]

/-- The usual setup: steps that went as they should are logged, and more when a fault is searched. -/
def standard (debug : Bool) : LogSetup :=
  ⟨if debug then .debug else .info, noisyComponents.map fun name => (name, .warning)⟩

end LogSetup

/-- How notifications are delivered. -/
structure Delivery where
  /-- The least level of log lines that are posted to the cluster. -/
  postingLevel : Level
  /-- The seconds that a request to the cluster may take. -/
  requestTimeout : Number
  /-- The seconds after which a watch is opened anew. -/
  serverTimeout : Number

/-- The delivery as a value. -/
def Delivery.toValue (delivery : Delivery) : Value :=
  .list [.text delivery.postingLevel.text, delivery.requestTimeout.toValue,
    delivery.serverTimeout.toValue]

/-- The operator of a resource. -/
structure Operator (ω : Type) where
  /-- The settings. -/
  settings : Settings
  /-- The controller of the resource. -/
  controller : Controller ω

namespace Operator

/-- Where the definitions come from. -/
def definitions (settings : Settings) : DefinitionSource :=
  if settings.hasFixedDefinition then
    .fixed settings.apiDescription settings.resourceDescriptor true
  else .cluster

/-- The setup of the handler. -/
def handling (settings : Settings) : RestHandling where
  handling := ⟨RestHandling.defaultKind, .standard true⟩
  definitions := definitions settings
  timeout := settings.requestTimeout
  logsRequests := settings.debug

/-- The numbers that the controller is set up with. -/
def options (settings : Settings) : ControlOptions where
  workers := settings.workers
  resyncInterval := settings.resyncInterval
  maxRetries := settings.maxRetries
  createDelay := settings.createDelay

/-- How notifications are delivered: only what may need attention is posted, and watches are opened
anew as often as all resources are observed again. -/
def delivery (settings : Settings) : Delivery where
  postingLevel := .warning
  requestTimeout := settings.requestTimeout
  serverTimeout := settings.resyncInterval

variable {ω : Type}

/-- The operator with some settings. -/
def ofSettings [World ω] (settings : Settings) : Operator ω where
  settings
  controller :=
    { handler := (handling settings).handler
      resource := settings.watched
      recorder := .standard true
      options := options settings }

/-- The session at the start. -/
def session (settings : Settings) (world : ω) (threshold : Level) : Session ω where
  world
  telemetry := .start threshold false
  means := ⟨true, true⟩
  descriptions := .empty settings.descriptionCacheTtl
  descriptor := none

end Operator

end Reconciler
