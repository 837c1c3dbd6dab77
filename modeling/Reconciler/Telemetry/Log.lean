import Reconciler.Json.Writer
import Reconciler.Redaction

/-!
# Log lines

Lines with a level, of which those below a threshold are dropped. The steps of a reconciliation are
logged as records in JSON, with the scope of the event that is being processed, and without
credentials.
-/

namespace Reconciler

/-- How important a log line is. -/
inductive Level where
  /-- Of use when a fault is searched. -/
  | debug
  /-- A step that went as it should. -/
  | info
  /-- Something that may need attention. -/
  | warning
  /-- A fault. -/
  | error
  /-- A fault that ends the program. -/
  | critical
deriving DecidableEq, Repr, Inhabited

namespace Level

/-- The name of a level. -/
def text : Level → String
  | .debug => "DEBUG"
  | .info => "INFO"
  | .warning => "WARNING"
  | .error => "ERROR"
  | .critical => "CRITICAL"

/-- The levels from the least to the most important. -/
def all : List Level :=
  [.debug, .info, .warning, .error, .critical]

/-- The level with a name. -/
def ofText? (s : String) : Option Level :=
  all.find? fun level => level.text == s

/-- The place of a level among all levels. -/
def rank : Level → Nat
  | .debug => 0
  | .info => 1
  | .warning => 2
  | .error => 3
  | .critical => 4

/-- Lines of the level are kept under a threshold. -/
def reaches (level threshold : Level) : Bool :=
  threshold.rank ≤ level.rank

end Level

/-- A log line. -/
structure LogLine where
  /-- The level. -/
  level : Level
  /-- The text. -/
  text : String
deriving DecidableEq, Repr

/-- A log line as a value. -/
def LogLine.toValue (line : LogLine) : Value :=
  .texts [line.level.text, line.text]

/-- The event that the log lines of a worker belong to. -/
structure Scope where
  /-- The identifier of the event. -/
  correlationId : String
  /-- What the event asks for. -/
  eventType : String
  /-- The resource that the event is about. -/
  resource : String
deriving DecidableEq, Repr

namespace Scope

/-- The parts of a scope under their names. -/
def parts (scope : Scope) : List (String × String) :=
  [("correlation_id", scope.correlationId), ("event_type", scope.eventType),
    ("resource", scope.resource)]

/-- The parts of a scope that are not empty, with further fields written over them. -/
def fields (scope : Option Scope) (additional : Fields) : Fields :=
  let known := ((scope.map parts).getD []).filter fun part => !part.2.isEmpty
  Fields.merge (known.map fun (name, text) => (.text name, .text text)) additional

end Scope

/-- A step of a reconciliation, as it is logged. -/
structure LogRecord where
  /-- The component that reports. -/
  controller : String
  /-- The kind of the resource. -/
  kind : String
  /-- The name of the resource. -/
  name : String
  /-- The namespace of the resource. -/
  namespace_ : String
  /-- What happened. -/
  event : String
  /-- The reason in one word. -/
  reason : String
  /-- The message for a reader. -/
  message : String

namespace LogRecord

/-- The record under the names of its parts. -/
def fields (record : LogRecord) : Fields :=
  [(.text "controller", .text record.controller), (.text "kind", .text record.kind),
    (.text "name", .text record.name), (.text "namespace", .text record.namespace_),
    (.text "event", .text record.event), (.text "reason", .text record.reason),
    (.text "message", .text record.message)]

/-- The line of a record in a scope, with further fields, in JSON. -/
def line (record : LogRecord) (scope : Option Scope) (additional : Fields) : String :=
  Json.text true
    (Redaction.redactValue (.map (Fields.merge record.fields (Scope.fields scope additional))))

end LogRecord

end Reconciler
