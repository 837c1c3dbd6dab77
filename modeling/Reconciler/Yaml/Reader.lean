import Reconciler.Yaml.Node

/-!
# Reading documents

The values of documents. Keys are scalars; the maps under a merge key come first and give way to the
entries beside it. Bytes are text in UTF-8, or in UTF-16 behind a mark of the byte order.
-/

namespace Reconciler.Yaml

/-- The failure of a text that is no document. -/
def malformed {α : Type} (remark : String) : Except Failure α :=
  .error (.malformedDocument remark)

namespace Node

mutual

/-- The value of a node. -/
def value : Node → Except Failure Value
  | .scalar tag text => (scalarOf tag text).map .scalar
  | .sequence tag items =>
    match tag with
    | .sequence => (values items).map .list
    | _ => malformed "could not determine a constructor for the tag"
  | .mapping tag entries =>
    match tag with
    | .mapping => (fields entries).map fun (merged, own) => .map (merged.merge own)
    | _ => malformed "could not determine a constructor for the tag"

/-- The values of nodes. -/
def values : List Node → Except Failure (List Value)
  | [] => .ok []
  | item :: rest => do
    let v ← value item
    let vs ← values rest
    pure (v :: vs)

/-- The entries that are merged into a map, and its own ones. -/
def fields : List (Node × Node) → Except Failure (Fields × Fields)
  | [] => .ok ([], [])
  | (.scalar .merge _, source) :: rest => do
    let first ← mergedFields source
    let (merged, own) ← fields rest
    pure (Fields.merge first merged, own)
  | (.scalar .defaultValue text, item) :: rest => do
    let v ← value item
    let (merged, own) ← fields rest
    pure (merged, (.text text, v) :: own)
  | (key, item) :: rest => do
    match ← value key with
    | .scalar k =>
      let v ← value item
      let (merged, own) ← fields rest
      pure (merged, (k, v) :: own)
    | _ => malformed "found unhashable key"

/-- The entries of a map or of several maps, of which the earlier win. -/
def mergedFields : Node → Except Failure Fields
  | .mapping _ entries => (fields entries).map fun (merged, own) => merged.merge own
  | .sequence _ items => mergedAll items
  | .scalar .. => malformed "expected a mapping or list of mappings for merging"

/-- The entries of several maps, of which the earlier win. -/
def mergedAll : List Node → Except Failure Fields
  | [] => .ok []
  | .mapping _ entries :: rest => do
    let (merged, own) ← fields entries
    let others ← mergedAll rest
    pure (Fields.merge others (merged.merge own))
  | _ :: _ => malformed "expected a mapping for merging"

end

end Node

/-- The character may stand in a document. -/
def isAllowed (c : Char) : Bool :=
  let n := c.toNat
  n == 9 || n == 10 || n == 13 || (0x20 ≤ n && n ≤ 0x7E) || n == 0x85 || (0xA0 ≤ n && n ≤ 0xFFFD) ||
    0x10000 ≤ n

/-- The documents of a text one after another, and the failure behind the last of them. -/
def documents (text : String) : List Value × Option Failure :=
  if !text.toList.all isAllowed then ([], some (.malformedDocument "special characters are not allowed"))
  else
    let (nodes, fault) := nodesOf text.toList
    go nodes (fault.map .malformedDocument)
where
  /-- The values up to the first node without one. -/
  go : List Node → Option Failure → List Value × Option Failure
    | [], failure => ([], failure)
    | node :: rest, failure =>
      match node.value with
      | .error failure => ([], some failure)
      | .ok v =>
        let (vs, failure) := go rest failure
        (v :: vs, failure)

/-- The value of a text that holds one document; an empty text holds the absent value. -/
def read (text : String) : Except Failure Value :=
  if !text.toList.all isAllowed then malformed "special characters are not allowed"
  else
    match nodesOf text.toList with
    | (_, some fault) => malformed fault
    | ([], none) => .ok .null
    | ([node], none) => node.value
    | (_, none) => malformed "expected a single document in the stream, but found another document"

/-- The numbers of pairs of bytes. -/
def units (bigEndian : Bool) : List UInt8 → Option (List Nat)
  | [] => some []
  | [_] => none
  | a :: b :: rest =>
    let (high, low) := if bigEndian then (a, b) else (b, a)
    (units bigEndian rest).map ((256 * high.toNat + low.toNat) :: ·)

/-- The characters of UTF-16 units. -/
def charsOfUnits : List Nat → Option (List Char)
  | [] => some []
  | u :: rest =>
    if u < 0xD800 || 0xDFFF < u then (charsOfUnits rest).map (Char.ofNat u :: ·)
    else
      match rest with
      | v :: rest =>
        if u ≤ 0xDBFF && 0xDC00 ≤ v && v ≤ 0xDFFF then
          (charsOfUnits rest).map (Char.ofNat (0x10000 + (u - 0xD800) * 0x400 + (v - 0xDC00)) :: ·)
        else none
      | [] => none

/-- The text of the bytes of a document. -/
def textOfBytes (bytes : List UInt8) : Except Failure String :=
  let text : Option String :=
    match bytes with
    | 0xFF :: 0xFE :: _ => ((units false bytes).bind charsOfUnits).map String.ofList
    | 0xFE :: 0xFF :: _ => ((units true bytes).bind charsOfUnits).map String.ofList
    | _ => String.fromUTF8? (ByteArray.mk bytes.toArray)
  match text with
  | some s => .ok s
  | none => malformed "invalid byte sequence"

/-- The value of bytes that hold one document. -/
def readBytes (bytes : List UInt8) : Except Failure Value := do
  read (← textOfBytes bytes)

end Reconciler.Yaml
