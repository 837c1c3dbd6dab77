import Reconciler.Text.Quoted
import Reconciler.Value.Printed

/-!
# Writing JSON

The interchange form of a value, with a space after each comma and colon. Characters outside ASCII
are written as themselves or as escapes of their UTF-16 units.
-/

namespace Reconciler.Json

/-- The escape of a UTF-16 unit. -/
def unitEscape (unit : Nat) : List Char :=
  '\\' :: 'u' :: Text.hexDigits 4 unit

/-- The escape of a character by its UTF-16 units. -/
def charEscape (c : Char) : List Char :=
  let n := c.toNat
  if n < 0x10000 then unitEscape n
  else unitEscape (0xD800 + (n - 0x10000) / 0x400) ++ unitEscape (0xDC00 + (n - 0x10000) % 0x400)

/-- The form of a character inside a string. -/
def stringChar (ascii : Bool) (c : Char) : List Char :=
  if c == '"' then ['\\', '"']
  else if c == '\\' then ['\\', '\\']
  else if c == '\n' then ['\\', 'n']
  else if c == '\r' then ['\\', 'r']
  else if c == '\t' then ['\\', 't']
  else if c.toNat == 8 then ['\\', 'b']
  else if c.toNat == 12 then ['\\', 'f']
  else if c.toNat < 0x20 || (ascii && 0x7F ≤ c.toNat) then charEscape c
  else [c]

/-- A string in quotes. -/
def string (ascii : Bool) (s : String) : String :=
  String.ofList ('"' :: s.toList.flatMap (stringChar ascii) ++ ['"'])

/-- The form of a floating-point number. -/
def number (x : Float) : String :=
  match Decimal.read x with
  | .undefined => "NaN"
  | .infinite negative => if negative then "-Infinity" else "Infinity"
  | .finite _ => Decimal.text x

/-- The form of a scalar; times and bytes are written as their text. -/
def scalar (ascii : Bool) : Scalar → String
  | .null => "null"
  | .bool b => if b then "true" else "false"
  | .int n => toString n
  | .float x => number x
  | .text s => string ascii s
  | s => string ascii s.plain

/-- The name of a member; a key that is no text is named by its form. -/
def key (ascii : Bool) : Scalar → String
  | .text s => string ascii s
  | .time t => string ascii t.text
  | s => string ascii (scalar ascii s)

mutual

/-- The form of a value. -/
def text (ascii : Bool) : Value → String
  | .scalar s => scalar ascii s
  | .list items => "[" ++ textItems ascii items ++ "]"
  | .map entries => "\x7b" ++ textMembers ascii entries ++ "\x7d"

/-- The forms of the items, separated by commas. -/
def textItems (ascii : Bool) : List Value → String
  | [] => ""
  | [v] => text ascii v
  | v :: rest => text ascii v ++ ", " ++ textItems ascii rest

/-- The forms of the members, separated by commas. -/
def textMembers (ascii : Bool) : List (Scalar × Value) → String
  | [] => ""
  | [(k, v)] => key ascii k ++ ": " ++ text ascii v
  | (k, v) :: rest =>
    key ascii k ++ ": " ++ text ascii v ++ ", " ++ textMembers ascii rest

end

end Reconciler.Json
