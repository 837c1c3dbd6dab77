import Reconciler.Value.Access

/-!
# Resource descriptors

How a managed kind maps onto a backend: the operations that serve its actions, the fields that
identify an external resource, the fields that are compared, and the resources that own it.
-/

namespace Reconciler

/-- Texts under names, in the order in which the names were first written. -/
abbrev Bindings := List (String × String)

namespace Bindings

/-- The text under a name. -/
def get? (bindings : Bindings) (name : String) : Option String :=
  bindings.lookup name

/-- The bindings with a text under a name: in the name's place, or at the end for a new name. -/
def bind (name text : String) : Bindings → Bindings
  | [] => [(name, text)]
  | (n, t) :: rest => if n == name then (n, text) :: rest else (n, t) :: bind name text rest

/-- The bindings with those of another list written over them, in their order. -/
def merge (bindings later : Bindings) : Bindings :=
  later.foldl (fun merged entry => bind entry.1 entry.2 merged) bindings

/-- The names in order. -/
def names (bindings : Bindings) : List String :=
  bindings.map Prod.fst

/-- The bindings as a value. -/
def toValue (bindings : Bindings) : Value :=
  .map (bindings.map fun (name, text) => (.text name, .text text))

end Bindings

/-- The text form of the value under a key, empty when the key is absent. -/
def textUnder (fields : Fields) (name : String) : String :=
  ((fields.get? name).getD (.text "")).plain

/-- The items of a list that may be absent. -/
def listUnder (fields : Fields) (name : String) : Except Failure (List Value) :=
  (((fields.get? name).getD .null).orElse (.list [])).elements

/-- The operation that serves an action. -/
structure Verb where
  /-- The name of the action. -/
  action : String
  /-- The method. -/
  method : String
  /-- The path. -/
  path : String
  /-- The names that the fields of the resource have in the backend, where they differ. -/
  renames : Bindings
deriving DecidableEq, Repr

namespace Verb

/-- The value under a required key of a verb. -/
def required (data : Value) (name : String) : Except Failure Value :=
  match data with
  | .map fields =>
    match Fields.get? fields name with
    | some v => .ok v
    | none => .error (.missingField name "verbsDescription")
  | v => .error (.shape (.notIndexed v.kind))

/-- The renamed fields that a value declares. -/
def renamesOf (data : Value) : Except Failure Bindings := do
  let entries ← ((← data.member "altFieldMapping").orElse (.map [])).entries
  pure (Bindings.merge [] (entries.map fun (key, value) => (key.plain, value.plain)))

/-- The verb that a value declares. -/
def ofValue (data : Value) : Except Failure Verb := do
  let action ← required data "action"
  let method ← required data "method"
  let path ← required data "path"
  let renames ← renamesOf data
  pure ⟨action.plain, method.plain, path.plain, renames⟩

/-- The verb as a value. -/
def toValue (verb : Verb) : Value :=
  .ofFields
    [("action", .text verb.action), ("method", .text verb.method), ("path", .text verb.path),
      ("alt_field_mapping", verb.renames.toValue)]

end Verb

/-- The rule that a field of the desired state singles out an owner of a kind. -/
structure OwnerRule where
  /-- The field. -/
  field : String
  /-- The kind of the owner. -/
  owner : GroupVersionKind
deriving DecidableEq, Repr

namespace OwnerRule

/-- The rule that a value declares. -/
def ofValue (data : Value) : Except Failure OwnerRule := do
  let kind := (← data.member "groupVersionKind").orElse (.map [])
  let fields ← data.entries.mapError fun _ => .shape (.noMember data.kind "get")
  let parts ← kind.entries.mapError fun _ => .shape (.noMember kind.kind "get")
  pure ⟨textUnder fields "field",
    ⟨textUnder parts "group", textUnder parts "version", textUnder parts "kind"⟩⟩

/-- The rule as a value. -/
def toValue (rule : OwnerRule) : Value :=
  .ofFields
    [("field", .text rule.field), ("group", .text rule.owner.group),
      ("version", .text rule.owner.version), ("kind", .text rule.owner.kind)]

end OwnerRule

/-- How a managed kind maps onto a backend. -/
structure Descriptor where
  /-- The managed kind. -/
  kind : String
  /-- The fields that identify an external resource. -/
  identifiers : List String
  /-- The operations that serve the actions. -/
  verbs : List Verb
  /-- The fields that are compared; without any, all fields that the answer has. -/
  compared : List String
  /-- The rules that single out the owners. -/
  owners : List OwnerRule
deriving DecidableEq, Repr

namespace Descriptor

/-- The failure of a descriptor that names no kind. -/
def unnamed {α : Type} : Except Failure α :=
  .error (.missingField "kind" "resource descriptor")

/-- The descriptor that a value declares. -/
def ofValue (data : Value) : Except Failure Descriptor := do
  match data with
  | .map fields =>
    let kind := (Fields.get? fields "kind").getD .null
    if kind.isBlank then unnamed
    else
      let identifiers ← listUnder fields "identifiers"
      let verbs ← (← listUnder fields "verbsDescription").mapM Verb.ofValue
      let compared ← listUnder fields "compareList"
      let owners ← (← listUnder fields "ownerRefs").mapM OwnerRule.ofValue
      pure ⟨kind.plain, identifiers.map Value.plain, verbs, compared.map Value.plain, owners⟩
  | _ => unnamed

/-- The descriptor as a value. -/
def toValue (descriptor : Descriptor) : Value :=
  .ofFields
    [("kind", .text descriptor.kind), ("identifiers", .texts descriptor.identifiers),
      ("verbs_description", .list (descriptor.verbs.map Verb.toValue)),
      ("compare_list", .texts descriptor.compared),
      ("owner_refs", .list (descriptor.owners.map OwnerRule.toValue))]

end Descriptor

end Reconciler
