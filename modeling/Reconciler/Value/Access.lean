import Reconciler.Failure

/-!
# Access to untyped values

Reading, writing and removing at a path of text keys, and the readings of a value that fail when it
has another shape.
-/

namespace Reconciler

/-- Why a path cannot be followed. -/
inductive PathFault where
  /-- A key of the path is absent. -/
  | absent
  /-- The value that the first `depth` keys lead to is no map. -/
  | notMap (depth : Nat) (got : Value)

/-- The fault as seen from the map that holds the value. -/
def PathFault.outer : PathFault → PathFault
  | .absent => .absent
  | .notMap depth got => .notMap (depth + 1) got

namespace Value

/-- The value that a path leads to. -/
def follow : Value → List String → Except PathFault Value
  | v, [] => .ok v
  | .map fields, key :: rest =>
    match Fields.get? fields key with
    | none => .error .absent
    | some v => (follow v rest).mapError PathFault.outer
  | v, _ :: _ => .error (.notMap 0 v)

/-- Maps around a value, one for each key of a path. -/
def nest (value : Value) : List String → Value
  | [] => value
  | key :: rest => .map [(.text key, nest value rest)]

/-- The tree with a value written at a path; maps that are absent on the way are created. -/
def write : Value → List String → Value → Except PathFault Value
  | _, [], value => .ok value
  | .map fields, [key], value => .ok (.map (Fields.set fields key value))
  | .map fields, key :: rest, value =>
    match Fields.get? fields key with
    | none => .ok (.map (Fields.set fields key (nest value rest)))
    | some v =>
      match write v rest value with
      | .ok inner => .ok (.map (Fields.set fields key inner))
      | .error fault => .error fault.outer
  | v, _ :: _, _ => .error (.notMap 0 v)

/-- The tree without what a path leads to; a path that leads nowhere removes nothing. -/
def remove : Value → List String → Value
  | .map fields, [key] => .map (Fields.drop (.text key) fields)
  | .map fields, key :: rest =>
    match Fields.get? fields key with
    | some (.map inner) => .map (Fields.set fields key (remove (.map inner) rest))
    | _ => .map fields
  | v, _ => v

/-- The value under a key, null when the key is absent; only a map has values under keys. -/
def member (value : Value) (name : String) : Except Failure Value :=
  match value with
  | .map fields => .ok ((Fields.get? fields name).getD .null)
  | v => .error (.shape (.noMember v.kind "get"))

/-- The value under a key, a given one when the key is absent. -/
def memberOr (value : Value) (name : String) (default : Value) : Except Failure Value :=
  match value with
  | .map fields => .ok ((Fields.get? fields name).getD default)
  | v => .error (.shape (.noMember v.kind "get"))

/-- The items of a value in order: of a list its items, of a map its keys, of a text its characters. -/
def elements : Value → Except Failure (List Value)
  | .list items => .ok items
  | .map entries => .ok (entries.map fun entry => .scalar entry.1)
  | .scalar (.text s) => .ok (s.toList.map fun c => .text (String.singleton c))
  | .scalar (.binary bytes) => .ok (bytes.map fun b => .int b.toNat)
  | v => .error (.shape (.notIterable v.kind))

/-- The entries of a value; only a map has entries. -/
def entries (value : Value) : Except Failure Fields :=
  match value with
  | .map fields => .ok fields
  | v => .error (.shape (.noMember v.kind "items"))

/-- The keys of a value; only a map has keys. -/
def keys (value : Value) : Except Failure (List Scalar) :=
  match value with
  | .map fields => .ok (fields.map Prod.fst)
  | v => .error (.shape (.noMember v.kind "keys"))

/-- The text form of a value in a request: truth values in words, numbers without a fraction, and
nothing for what has no such form. -/
def parameter : Value → Except Failure String
  | .text s => .ok s
  | .bool b => .ok (if b then "true" else "false")
  | .int n => .ok (toString n)
  | .float x =>
    match Decimal.read x with
    | .finite value => .ok (toString value.truncate)
    | .infinite _ => .error (.shape .infiniteWhole)
    | .undefined => .error (.shape .undefinedWhole)
  | _ => .ok ""

end Value

/-- The text of the digits of a whole number: an underscore may stand between two digits. -/
def digitsOf? : List Char → Option (List Nat)
  | [] => none
  | [c] => (Text.digitValue? c).map ([·])
  | c :: '_' :: rest => do
    let d ← Text.digitValue? c
    let ds ← digitsOf? rest
    pure (d :: ds)
  | c :: rest => do
    let d ← Text.digitValue? c
    let ds ← digitsOf? rest
    pure (d :: ds)

/-- The whole number that a text states, with a sign, and with white space around it. -/
def wholeOfText? (s : String) : Option Int :=
  let number (written : List Char) : Option Int := do
    let digits ← digitsOf? written
    if Text.digitLimit < digits.length then none
    else pure (digits.foldl (fun n d => 10 * n + d) 0 : Nat)
  match Text.trimChars Text.isNumberMargin s.toList with
  | '-' :: digits => (number digits).map (- ·)
  | '+' :: digits => number digits
  | digits => number digits

/-- The whole number of a value: of a number without its fraction, of a truth value, or of a text. -/
def Value.whole : Value → Except Failure Int
  | .int n => .ok n
  | .bool b => .ok (if b then 1 else 0)
  | .float x =>
    match Decimal.read x with
    | .finite value => .ok value.truncate
    | .infinite _ => .error (.shape .infiniteWhole)
    | .undefined => .error (.shape .undefinedWhole)
  | .text s =>
    match wholeOfText? s with
    | some n => .ok n
    | none => .error (.shape (.notNumeral s))
  | v => .error (.shape (.notWhole v.kind))

namespace ObjectRef

/-- The reference that a map describes; absent parts are empty. -/
def ofFields (fields : Fields) : ObjectRef :=
  let part (name : String) : String := ((Fields.get? fields name).map Value.plain).getD ""
  ⟨part "apiVersion", part "kind", part "name", part "namespace"⟩

/-- The map that describes a reference. -/
def toValue (ref : ObjectRef) : Value :=
  .map [(.text "apiVersion", .text ref.apiVersion), (.text "kind", .text ref.kind),
    (.text "name", .text ref.name), (.text "namespace", .text ref.namespace_)]

end ObjectRef

/-- The map that describes the coordinates of a kind. -/
def GroupVersionKind.toValue (kind : GroupVersionKind) : Value :=
  .ofFields
    [("group", .text kind.group), ("version", .text kind.version), ("kind", .text kind.kind)]

/-- The map that describes the coordinates of a resource. -/
def GroupVersionResource.toValue (resource : GroupVersionResource) : Value :=
  .ofFields
    [("group", .text resource.group), ("version", .text resource.version),
      ("resource", .text resource.resource)]

end Reconciler
