import Reconciler.Description.Basic

/-!
# Operations of an API description

What each operation of a description requires: its parameters, the fields of its body, and the status
codes of success.
-/

namespace Reconciler.Description

/-- The methods that an operation can be declared for, in the order in which they are listed. -/
def methods : List String :=
  ["get", "put", "post", "delete", "options", "head", "patch", "trace"]

/-- The map of paths. -/
def paths (d : Description) : Except Failure Value := do
  pure ((← d.document.member "paths").orElse (.map []))

/-- The declared operations: the method in capitals and the path. -/
def operations (d : Description) : Except Failure (List (String × Scalar)) := do
  let entries ← (← d.paths).entries
  let found ← entries.mapM fun (path, item) => do
    let item ← d.deref item
    pure ((methods.filter fun method => ((item.get? method).bind Value.fields?).isSome).map
      fun method => (Text.upper method, path))
  pure found.flatten

/-- The entry of a path. -/
def pathItem (d : Description) (method path : String) : Except Failure Fields := do
  match ← d.deref (← (← d.paths).member path) with
  | .map fields => pure fields
  | _ => throw (.operationNotFound method path)

/-- The declaration of an operation. -/
def operation (d : Description) (method path : String) : Except Failure Fields := do
  match (← d.pathItem method path).get? (Text.lower method) with
  | some (.map fields) => pure fields
  | _ => throw (.operationNotFound method path)

/-- The operation is declared. -/
def hasOperation (d : Description) (method path : String) : Except Failure Bool :=
  match d.operation method path with
  | .ok _ => .ok true
  | .error (.operationNotFound ..) => .ok false
  | .error failure => .error failure

/-- A declared parameter. -/
structure Parameter where
  /-- The name. -/
  name : String
  /-- The place of the parameter as text. -/
  place : String
  /-- The declaration. -/
  declaration : Fields

namespace Parameter

/-- The parameter that a node declares; a node without a name declares none. -/
def ofValue? (node : Value) : Option Parameter :=
  match node with
  | .map fields =>
    (Fields.get? fields "name").map fun name =>
      ⟨name.plain, ((Fields.get? fields "in").getD (.text "")).plain, fields⟩
  | _ => none

/-- The parameter is declared for a place. -/
def isIn (parameter : Parameter) (place : String) : Bool :=
  ((parameter.declaration.get? "in").getD .null).equal (.text place)

/-- The parameter is declared as required. -/
def isRequired (parameter : Parameter) : Bool :=
  !((parameter.declaration.get? "required").getD .null).isBlank

/-- The parameters have the same name and place. -/
def sameSlot (a b : Parameter) : Bool :=
  a.name == b.name && a.place == b.place

/-- The parameters with one declared again in its slot, or at the end in a new one. -/
def declare (parameter : Parameter) : List Parameter → List Parameter
  | [] => [parameter]
  | p :: rest => if p.sameSlot parameter then parameter :: rest else p :: declare parameter rest

end Parameter

/-- The items of a list in a declaration. -/
def listed (declaration : Fields) (name : String) : Except Failure (List Value) :=
  (((declaration.get? name).getD .null).orElse (.list [])).elements

/-- The parameters of an operation: those of its path, and its own ones, which win in a slot. -/
def parameters (d : Description) (method path : String) : Except Failure (List Parameter) := do
  let item ← d.pathItem method path
  let operation ← d.operation method path
  let raw := (← listed item "parameters") ++ (← listed operation "parameters")
  let nodes ← raw.mapM d.deref
  pure ((nodes.filterMap Parameter.ofValue?).foldl (fun merged p => p.declare merged) [])

/-- The names of the parameters that are declared for a place. -/
def namesIn (parameters : List Parameter) (place : String) : List String :=
  ((parameters.filter (·.isIn place)).map Parameter.name).eraseDups

/-- The names of the path parameters and of the query parameters of an operation. -/
def parameterNames (d : Description) (method path : String) :
    Except Failure (List String × List String) := do
  let parameters ← d.parameters method path
  pure (namesIn parameters "path", namesIn parameters "query")

/-- The fault of the first parameter without a value that needs one. -/
def missingParameter? (method path : String) (pathNames queryNames : List String)
    (parameters : List Parameter) : Option ValidationFault :=
  parameters.findSome? fun parameter =>
    if parameter.isIn "path" && !pathNames.contains parameter.name then
      some (.missingPathParameter parameter.name method path)
    else if parameter.isIn "query" && parameter.isRequired && !queryNames.contains parameter.name then
      some (.missingQueryParameter parameter.name method path)
    else none

/-- Succeeds on a request that has a value for every parameter that needs one. -/
def validateRequest (d : Description) (method path : String) (pathNames queryNames : List String) :
    Except Failure Unit := do
  match missingParameter? method path pathNames queryNames (← d.parameters method path) with
  | some fault => invalid fault
  | none => pure ()

/-- The keys with those of another list that are not among them. -/
def union (keys others : List Scalar) : List Scalar :=
  others.foldl (fun all key => if all.any (·.sameKey key) then all else all ++ [key]) keys

/-- The names of the properties of a schema and of the schemas it is composed of; the bound exceeds
the depth of the composition. -/
def properties (d : Description) (schema : Value) : Nat → Except Failure (List Scalar)
  | 0 => .ok []
  | bound + 1 => do
    match ← d.deref schema with
    | .map fields =>
      let own ← (((Fields.get? fields "properties").getD .null).orElse (.map [])).keys
      let parts ← (← listed fields "allOf").mapM fun part => properties d part bound
      pure (parts.foldl union (union [] own))
    | _ => pure []

/-- The media type of the bodies that are looked at. -/
def jsonMediaType : String :=
  "application/json"

/-- The names of the fields of an operation's body, none when no body is declared. -/
def bodyFields (d : Description) (method path : String) : Except Failure (List Scalar) := do
  let body := ((← d.operation method path).get? "requestBody").getD .null
  match ← d.deref body with
  | .map body =>
    let content := ((Fields.get? body "content").getD .null).orElse (.map [])
    match ← content.member jsonMediaType with
    | .map media =>
      d.properties ((Fields.get? media "schema").getD .null) (d.document.size + 2)
    | _ => pure []
  | _ => pure []

/-- The declared status codes of success, in the order in which they are declared. -/
def successCodes (d : Description) (method path : String) : Except Failure (List Int) := do
  let responses := (((← d.operation method path).get? "responses").getD .null).orElse (.map [])
  let codes := (← responses.keys).filterMap fun key => wholeOfText? key.plain
  pure (codes.filter fun code => 200 ≤ code && code < 300)

/-- The first declared status code of success. -/
def successCode (d : Description) (method path : String) : Except Failure Int := do
  match ← d.successCodes method path with
  | code :: _ => pure code
  | [] => throw (.noSuccessCode method path)

end Reconciler.Description
