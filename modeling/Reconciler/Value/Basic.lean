import Reconciler.Calendar
import Reconciler.Decimal.Dyadic

/-!
# Untyped values

The values of documents: scalars, lists, and maps that keep the order in which their keys were
written. Keys are scalars; a key that is written again keeps its place and takes the new value.
-/

namespace Reconciler

/-- A value without parts. -/
inductive Scalar where
  /-- The absent value. -/
  | null
  /-- A truth value. -/
  | bool (b : Bool)
  /-- A whole number of any size. -/
  | int (n : Int)
  /-- A floating-point number. -/
  | float (x : Float)
  /-- A text. -/
  | text (s : String)
  /-- A day or a moment. -/
  | time (t : Timestamp)
  /-- A sequence of bytes. -/
  | binary (bytes : List UInt8)

/-- An untyped value. -/
inductive Value where
  /-- A value without parts. -/
  | scalar (s : Scalar)
  /-- A sequence of values. -/
  | list (items : List Value)
  /-- A map from scalars to values, in the order in which its keys were written. -/
  | map (entries : List (Scalar × Value))

/-- The entries of a map. -/
abbrev Fields := List (Scalar × Value)

namespace Scalar

/-- The exact number that a scalar stands for; truth values count as zero and one. -/
def reading? : Scalar → Option Decimal.Reading
  | .bool b => some (.finite (.ofInt (if b then 1 else 0)))
  | .int n => some (.finite (.ofInt n))
  | .float x => some (Decimal.read x)
  | _ => none

/-- Equality of scalars, where floating-point numbers are compared as `float` says. -/
def equalBy (float : Float → Float → Bool) : Scalar → Scalar → Bool
  | .null, .null => true
  | .text a, .text b => a == b
  | .int a, .int b => a == b
  | .bool a, .bool b => a == b
  | .float a, .float b => float a b
  | .time a, .time b => a == b
  | .binary a, .binary b => a == b
  | a, b =>
    match a.reading?, b.reading? with
    | some x, some y => x.compare? y == some .eq
    | _, _ => false

/-- The scalars are the same key of a map. -/
def sameKey (a b : Scalar) : Bool :=
  equalBy (fun x y => x.toBits == y.toBits || Decimal.equal x y) a b

/-- The name of the kind of a scalar. -/
def kind : Scalar → String
  | .null => "NoneType"
  | .bool _ => "bool"
  | .int _ => "int"
  | .float _ => "float"
  | .text _ => "str"
  | .time t => if t.clock.isSome then "datetime" else "date"
  | .binary _ => "bytes"

/-- The scalar counts as empty: null, false, zero, or without characters. -/
def isBlank : Scalar → Bool
  | .null => true
  | .bool b => !b
  | .int n => n == 0
  | .float x => Decimal.equalInt x 0
  | .text s => s.isEmpty
  | .time _ => false
  | .binary bytes => bytes.isEmpty

end Scalar

namespace Fields

/-- The value under a key. -/
def find? (key : Scalar) : Fields → Option Value
  | [] => none
  | (k, v) :: rest => if k.sameKey key then some v else find? key rest

/-- The value under a text key. -/
def get? (fields : Fields) (name : String) : Option Value :=
  find? (.text name) fields

/-- The map has the key. -/
def has (key : Scalar) (fields : Fields) : Bool :=
  (find? key fields).isSome

/-- The map with a value under a key: in the key's place, or at the end for a new key. -/
def put (key : Scalar) (value : Value) : Fields → Fields
  | [] => [(key, value)]
  | (k, v) :: rest => if k.sameKey key then (k, value) :: rest else (k, v) :: put key value rest

/-- The map with a value under a text key. -/
def set (fields : Fields) (name : String) (value : Value) : Fields :=
  put (.text name) value fields

/-- The map without a key. -/
def drop (key : Scalar) (fields : Fields) : Fields :=
  fields.filter fun entry => !entry.1.sameKey key

/-- The map with the entries of another one written over it, in their order. -/
def merge (fields later : Fields) : Fields :=
  later.foldl (fun merged entry => put entry.1 entry.2 merged) fields

/-- The map of written entries: a key that is written again keeps its place. -/
def ofEntries (entries : List (Scalar × Value)) : Fields :=
  merge [] entries

/-- The values of the map in order. -/
def values (fields : Fields) : List Value :=
  fields.map Prod.snd

end Fields

namespace Value

/-- The absent value. -/
@[match_pattern] abbrev null : Value := .scalar .null

/-- A truth value. -/
@[match_pattern] abbrev bool (b : Bool) : Value := .scalar (.bool b)

/-- A whole number. -/
@[match_pattern] abbrev int (n : Int) : Value := .scalar (.int n)

/-- A floating-point number. -/
@[match_pattern] abbrev float (x : Float) : Value := .scalar (.float x)

/-- A text. -/
@[match_pattern] abbrev text (s : String) : Value := .scalar (.text s)

instance : Inhabited Value := ⟨.null⟩

/-- The map with text keys. -/
def ofFields (fields : List (String × Value)) : Value :=
  .map (Fields.ofEntries (fields.map fun (name, value) => (.text name, value)))

/-- The list of texts. -/
def texts (names : List String) : Value :=
  .list (names.map .text)

/-- The name of the kind of a value. -/
def kind : Value → String
  | .scalar s => s.kind
  | .list _ => "list"
  | .map _ => "dict"

/-- The value counts as empty: null, false, zero, or without parts. -/
def isBlank : Value → Bool
  | .scalar s => s.isBlank
  | .list items => items.isEmpty
  | .map entries => entries.isEmpty

/-- The value, or another one in the place of an empty one. -/
def orElse (value other : Value) : Value :=
  if value.isBlank then other else value

/-- The text, when the value is one. -/
def text? : Value → Option String
  | .text s => some s
  | _ => none

/-- The entries, when the value is a map. -/
def fields? : Value → Option Fields
  | .map entries => some entries
  | _ => none

/-- The items, when the value is a list. -/
def items? : Value → Option (List Value)
  | .list items => some items
  | _ => none

/-- The value under a text key, when the value is a map that has the key. -/
def get? (value : Value) (name : String) : Option Value :=
  value.fields?.bind (·.get? name)

mutual

/-- Equality of values, where floating-point numbers are compared as `float` says: lists agree in
order, maps agree key by key in any order. -/
def equalBy (float : Float → Float → Bool) : Value → Value → Bool
  | .scalar a, .scalar b => Scalar.equalBy float a b
  | .list as, .list bs => equalItems float as bs
  | .map as, .map bs => as.length == bs.length && equalEntries float as bs
  | _, _ => false

/-- Lists agree in length and item by item. -/
def equalItems (float : Float → Float → Bool) : List Value → List Value → Bool
  | [], [] => true
  | a :: as, b :: bs => equalBy float a b && equalItems float as bs
  | _, _ => false

/-- Each entry has an equal value under its key in the other map. -/
def equalEntries (float : Float → Float → Bool) : List (Scalar × Value) → Fields → Bool
  | [], _ => true
  | (k, a) :: as, bs =>
    (match Fields.find? k bs with
      | some b => equalBy float a b
      | none => false) && equalEntries float as bs

end

/-- Equality of values by their numbers, texts and parts; an undefined number equals nothing. -/
def equal (a b : Value) : Bool :=
  equalBy Decimal.equal a b

/-- The value has not changed: equality under which an undefined number equals itself. -/
def unchanged (a b : Value) : Bool :=
  equalBy (fun x y => x.toBits == y.toBits || Decimal.equal x y) a b

end Value

end Reconciler
