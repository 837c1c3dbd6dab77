import Reconciler.Backend.Action
import Reconciler.Backend.Descriptor
import Reconciler.Description.Operation

/-!
# Calls

The call that serves an action on a managed kind, and the request into which the fields of a resource
are bound: a field is a path parameter, a query parameter or a field of the body, in this order, under
the name that it has in the backend.
-/

namespace Reconciler

/-- What is sent with a call. -/
structure Request where
  /-- The path parameters. -/
  path : Bindings
  /-- The query parameters. -/
  query : Bindings
  /-- The fields of the body. -/
  body : Fields
deriving Inhabited

namespace Request

/-- The request without values. -/
def empty : Request :=
  ⟨[], [], []⟩

/-- The request as a value. -/
def toValue (request : Request) : Value :=
  .ofFields
    [("path_params", request.path.toValue), ("query", request.query.toValue),
      ("body", .map request.body)]

end Request

/-- A call that is resolved, before values are bound into it. -/
structure Call where
  /-- The action that the call serves. -/
  action : Action
  /-- How the call is made. -/
  kind : CallKind
  /-- The method in capitals. -/
  method : String
  /-- The path. -/
  path : String
  /-- The names of the path parameters. -/
  pathNames : List String
  /-- The names of the query parameters. -/
  queryNames : List String
  /-- The names of the fields of the body. -/
  bodyNames : List Scalar
  /-- The fields that identify an external resource. -/
  identifiers : List String
  /-- The names that fields have in the backend, where they differ. -/
  renames : Bindings

namespace Call

/-- The name that a field has in the backend. -/
def target (renames : Bindings) : Scalar → Scalar
  | .text name => .text ((renames.get? name).getD name)
  | key => key

/-- The name is one of the given texts. -/
def isNamed (names : List String) (key : Scalar) : Bool :=
  match key with
  | .text name => names.contains name
  | _ => false

/-- The request with a field bound into it; a field that the call has no place for is left out. -/
def bindField (call : Call) (request : Request) (field : Scalar × Value) :
    Except Failure Request := do
  let key := target call.renames field.1
  if isNamed call.pathNames key then
    let text ← field.2.parameter
    pure { request with path := Bindings.bind key.plain text request.path }
  else if isNamed call.queryNames key then
    let text ← field.2.parameter
    pure { request with query := Bindings.bind key.plain text request.query }
  else if call.bodyNames.any (·.sameKey key) then
    pure { request with body := Fields.put key field.2 request.body }
  else pure request

/-- The request that binds the fields of a resource: a field of the observed state takes the place of
a field of the desired state. -/
def request (call : Call) (status spec : Fields) : Except Failure Request :=
  (Fields.merge (Fields.merge [] spec) status).foldlM call.bindField .empty

/-- The verb of an action: the first that is declared for it. -/
def verbFor? (action : Action) (verbs : List Verb) : Option Verb :=
  verbs.find? fun verb => Action.normalized verb.action == action.text

/-- The call that a verb makes for an action. -/
def ofVerb (description : Description) (descriptor : Descriptor) (action : Action) (verb : Verb) :
    Except Failure Call := do
  let method := Text.upper verb.method
  let kind ← CallKind.ofAction action method
  let (pathNames, queryNames) ← description.parameterNames method verb.path
  let bodyNames ← if carriesBody method then description.bodyFields method verb.path else pure []
  pure
    { action, kind, method, pathNames, queryNames, bodyNames
      path := verb.path
      identifiers := descriptor.identifiers
      renames := verb.renames }

/-- The call that serves an action. -/
def resolve (description : Description) (descriptor : Descriptor) (action : Action) :
    Except Failure Call :=
  match verbFor? action descriptor.verbs with
  | some verb => ofVerb description descriptor action verb
  | none => .error (.unresolvedAction action.text (some descriptor.kind))

/-- The names in alphabetical order. -/
def sorted (names : List String) : List String :=
  names.mergeSort (· ≤ ·)

/-- The call as a value. -/
def toValue (call : Call) : Value :=
  .ofFields
    [("action", .text call.action.text), ("call_type", .text call.kind.text),
      ("method", .text call.method), ("path", .text call.path),
      ("path_params", .texts (sorted call.pathNames)),
      ("query_params", .texts (sorted call.queryNames)),
      ("body_fields", .texts (sorted (call.bodyNames.map Scalar.plain))),
      ("identifier_fields", .texts call.identifiers),
      ("alt_field_mapping", call.renames.toValue)]

end Call

/-- The performance of a call, with what is fixed about it. -/
inductive BoundCall where
  /-- One request with a method. -/
  | single (kind : CallKind)
  /-- One request for a list. -/
  | list (method : String)
  /-- One request for a list, which is searched. -/
  | findBy (method : String)
deriving DecidableEq, Repr

namespace BoundCall

/-- The performance of a resolved call. -/
def ofCall (call : Call) : BoundCall :=
  match call.kind with
  | .list => .list call.method
  | .findBy => .findBy call.method
  | kind => .single kind

/-- The name of a performance. -/
def name : BoundCall → String
  | .single kind => Text.lower kind.text
  | .list _ => "list"
  | .findBy _ => "find_by"

/-- What is fixed about a performance. -/
def keywords : BoundCall → Bindings
  | .single _ => []
  | .list method | .findBy method => [("method", method)]

end BoundCall

end Reconciler
