import Reconciler.Value.Access
import Reconciler.Value.Size

/-!
# API descriptions

A document that describes the operations of a backend, and the references inside it: JSON pointers
into the same document, which are followed until something that is no reference is reached.
-/

namespace Reconciler

/-- A loaded API description. -/
structure Description where
  /-- The document. -/
  document : Value
  /-- The location it was loaded from. -/
  location : String
deriving Inhabited

namespace Description

/-- The literal of a description. -/
def literal (d : Description) : String :=
  "APIDescription(" ++ Text.quoted (if d.location.isEmpty then "<inline>" else d.location) ++ ")"

/-- A failure of validation. -/
def invalid {α : Type} (fault : ValidationFault) : Except Failure α :=
  .error (.validation fault)

/-- The address of a server entry. -/
def serverAddress? (server : Value) : Option String :=
  match server.get? "url" with
  | some (.text url) => if url.isEmpty then none else some url
  | _ => none

/-- The address of the first server that has one, without slashes at its end. -/
def serverUrl (d : Description) : Except Failure String := do
  let servers ← ((← d.document.member "servers").orElse (.list [])).elements
  match servers.findSome? serverAddress? with
  | some url => pure (Text.trimRight '/' url)
  | none => invalid .noServer

/-- The key that a step of a pointer stands for. -/
def unescape (token : String) : String :=
  Text.replace "~0" "~" (Text.replace "~1" "/" token)

/-- The steps of a pointer, as the keys they stand for. -/
def pointerKeys (pointer : String) : List String :=
  (Text.split '/' (String.ofList (pointer.toList.dropWhile (· == '/')))).map unescape

/-- The node that a step leads to from a node. -/
def step (node : Value) (key : String) : Except Failure (Option Value) :=
  match node with
  | .map fields => .ok (Fields.get? fields key)
  | .list items =>
    if !key.isEmpty && key.toList.all Text.isDigitSign then
      match wholeOfText? key with
      | some n => .ok (items[n.toNat]?)
      | none => .error (.shape (.notNumeral key))
    else .ok none
  | .scalar _ => .ok none

/-- The node that steps lead to from a node; `ref` is the reference they belong to. -/
def followKeys (ref : String) (node : Value) : List String → Except Failure Value
  | [] => .ok node
  | key :: rest =>
    match step node key with
    | .error failure => .error failure
    | .ok none => invalid (.unresolvedReference ref)
    | .ok (some inner) => followKeys ref inner rest

/-- The node that a reference points to. -/
def resolve (d : Description) (ref : Value) : Except Failure Value :=
  match ref with
  | .text s =>
    match s.toList with
    | '#' :: pointer =>
      if pointer.isEmpty then .ok d.document
      else followKeys s d.document (pointerKeys (String.ofList pointer))
    | _ => invalid (.remoteReference ref)
  | _ => invalid (.remoteReference ref)

/-- The reference that a node is. -/
def reference? (node : Value) : Option Value :=
  node.get? "$ref"

/-- The texts under the reference key of a node. -/
def ownReference (node : Value) : List String :=
  match reference? node with
  | some (.text s) => [s]
  | _ => []

/-- The nodes directly under a node. -/
def children : Value → List Value
  | .scalar _ => []
  | .list items => items
  | .map entries => Fields.values entries

theorem sizeItems_children (node : Value) :
    Value.sizeItems (children node).reverse < node.size := by
  rw [Value.sizeItems_reverse]
  cases node with
  | scalar s => simp [children, Value.sizeItems, Value.size]
  | list items => simp [children, Value.size]
  | map entries => simp [children, Value.size, Value.sizeItems_values]

/-- The references in the nodes of a stack, whose top is first: the last child of a node is looked at
before its other children. -/
def walkReferences : List Value → List String
  | [] => []
  | node :: stack => ownReference node ++ walkReferences ((children node).reverse ++ stack)
termination_by stack => Value.sizeItems stack
decreasing_by
  simp only [Value.sizeItems_append, Value.sizeItems]
  have := sizeItems_children node
  omega

/-- All references in the document. -/
def references (d : Description) : List String :=
  walkReferences [d.document]

/-- Succeeds when every reference in the document points to a node. -/
def validateReferences (d : Description) : Except Failure Unit :=
  d.references.forM fun ref => do
    let _ ← d.resolve (.text ref)

/-- The node at the end of a chain of references, none of which is one of `seen`; the bound exceeds
the number of references of the document. -/
def derefFrom (d : Description) (seen : List Value) (node : Value) : Nat → Except Failure Value
  | 0 => invalid (.circularReference ((reference? node).getD .null).plain)
  | bound + 1 =>
    match reference? node with
    | none => .ok node
    | some ref =>
      match ref with
      | .list _ | .map _ => .error (.shape (.unhashable ref.kind))
      | .scalar _ =>
        if seen.any (·.equal ref) then invalid (.circularReference ref.plain)
        else
          match d.resolve ref with
          | .error failure => .error failure
          | .ok next => derefFrom d (ref :: seen) next bound

/-- The node at the end of a chain of references. -/
def deref (d : Description) (node : Value) : Except Failure Value :=
  match reference? node with
  | none => .ok node
  | some _ => derefFrom d [] node (d.references.length + 2)

end Description

end Reconciler
