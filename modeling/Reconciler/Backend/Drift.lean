import Reconciler.Backend.Descriptor

/-!
# Drift

The fields of the desired state whose values differ from those that the backend answers.
-/

namespace Reconciler.Drift

/-- The name that a field has in the backend. -/
def remoteName (renames : Bindings) (name : String) : String :=
  (renames.get? name).getD name

/-- The fields of a list that differ; each of them must be in the answer. -/
def listed (spec response : Fields) (renames : Bindings) : List String → Except Failure (List String)
  | [] => .ok []
  | name :: rest =>
    match response.get? (remoteName renames name) with
    | none => .error (.configuration (.missingCompareField name))
    | some actual =>
      match listed spec response renames rest with
      | .error failure => .error failure
      | .ok drifted =>
        match spec.get? name with
        | some desired => .ok (if desired.equal actual then drifted else name :: drifted)
        | none => .ok drifted

/-- The field of the desired state is in the answer with another value. -/
def differs (response : Fields) (renames : Bindings) (field : Scalar × Value) : Bool :=
  let key : Scalar :=
    match field.1 with
    | .text name => .text (remoteName renames name)
    | key => key
  match response.find? key with
  | some actual => !field.2.equal actual
  | none => false

/-- The names of the fields that differ: of the listed ones, or without a list of all fields that the
answer has. -/
def fields (spec response : Fields) (compared : List String) (renames : Bindings) :
    Except Failure (List String) :=
  if compared.isEmpty then
    .ok ((spec.filter (differs response renames)).map fun field => field.1.plain)
  else listed spec response renames compared

end Reconciler.Drift
