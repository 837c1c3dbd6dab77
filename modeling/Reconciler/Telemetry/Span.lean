import Reconciler.Failure

/-!
# Spans

The parts of a reconciliation that are traced. Spans nest; attributes and the status go to the
innermost span that is open, and outside of all spans they are dropped. A status of success is final,
and a failure can be replaced.
-/

namespace Reconciler

/-- How a span ended. -/
inductive SpanStatus where
  /-- Nothing was said about it. -/
  | unset
  /-- It succeeded. -/
  | ok
  /-- It failed. -/
  | error (description : String)
deriving DecidableEq, Repr

namespace SpanStatus

/-- The name of a status. -/
def text : SpanStatus → String
  | .unset => "UNSET"
  | .ok => "OK"
  | .error _ => "ERROR"

/-- The status after another one was set. -/
def set (current next : SpanStatus) : SpanStatus :=
  match current, next with
  | .ok, _ => .ok
  | current, .unset => current
  | _, next => next

end SpanStatus

/-- A traced part of a reconciliation. -/
structure Span where
  /-- The name. -/
  name : String
  /-- The name of the span that it is a part of. -/
  parent : Option String
  /-- The attributes. -/
  attributes : Fields
  /-- How it ended. -/
  status : SpanStatus

namespace Span

/-- The scalar can be an attribute. -/
def isPlainAttribute : Scalar → Bool
  | .bool _ | .int _ | .float _ | .text _ => true
  | _ => false

/-- The scalar is of the kind of another one; a truth value counts as a whole number. -/
def isOfKind (first other : Scalar) : Bool :=
  match first, other with
  | .int _, .bool _ => true
  | first, other => first.kind == other.kind

/-- The items can be an attribute: plain scalars of one kind, and absent ones. -/
def isListAttribute (items : List Value) : Bool :=
  let scalars := items.filterMap fun item =>
    match item with
    | .scalar s => some s
    | _ => none
  let present := scalars.filter fun s => s.kind != "NoneType"
  scalars.length == items.length && present.all isPlainAttribute &&
    (match present with
      | [] => true
      | first :: rest => rest.all (isOfKind first))

/-- The value can be an attribute. -/
def isAttribute : Value → Bool
  | .scalar s => isPlainAttribute s
  | .list items => isListAttribute items
  | .map _ => false

/-- The attributes with one more, unless its name is empty or its value can be no attribute. -/
def withAttribute (attributes : Fields) (name : String) (value : Value) : Fields :=
  if !name.isEmpty && isAttribute value then attributes.set name value else attributes

/-- The span with one more attribute. -/
def setAttribute (span : Span) (name : String) (value : Value) : Span :=
  { span with attributes := withAttribute span.attributes name value }

/-- The span after a status was set. -/
def setStatus (span : Span) (status : SpanStatus) : Span :=
  { span with status := span.status.set status }

/-- The span as a value. -/
def toValue (span : Span) : Value :=
  .ofFields
    [("name", .text span.name), ("parent", (span.parent.map Value.text).getD .null),
      ("attributes", .map span.attributes), ("status", .text span.status.text)]

end Span

/-- The spans of a tracer. -/
structure Tracer where
  /-- Spans are recorded. -/
  isEnabled : Bool
  /-- The spans that are open, the innermost first. -/
  opened : List Span
  /-- The spans that have ended, in the order in which they did. -/
  finished : List Span

namespace Tracer

/-- A tracer without spans. -/
def start (isEnabled : Bool) : Tracer :=
  ⟨isEnabled, [], []⟩

/-- The attributes of a new span: those that are given, and the kind of the resource. -/
def initialAttributes (kind : String) (attributes : Fields) : Fields :=
  let given := if kind.isEmpty then attributes else attributes.set "resource.kind" (.text kind)
  given.foldl (fun kept (name, value) => Span.withAttribute kept name.plain value) []

/-- The tracer after a span was opened. -/
def openSpan (tracer : Tracer) (name kind : String) (attributes : Fields) : Tracer :=
  if tracer.isEnabled then
    let span : Span :=
      ⟨name, (tracer.opened.head?).map Span.name, initialAttributes kind attributes, .unset⟩
    { tracer with opened := span :: tracer.opened }
  else tracer

/-- The tracer with its innermost span changed. -/
def change (tracer : Tracer) (change : Span → Span) : Tracer :=
  match tracer.opened with
  | [] => tracer
  | span :: rest => { tracer with opened := change span :: rest }

/-- The tracer after its innermost span has ended. -/
def closeSpan (tracer : Tracer) : Tracer :=
  match tracer.opened with
  | [] => tracer
  | span :: rest => { tracer with opened := rest, finished := tracer.finished ++ [span] }

/-- The tracer after a failure has left its innermost span. -/
def failSpan (tracer : Tracer) (failure : Failure) : Tracer :=
  (tracer.change (·.setStatus (.error (failure.kind ++ ": " ++ failure.message)))).closeSpan

end Tracer

end Reconciler
