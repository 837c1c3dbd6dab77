import Reconciler.Decimal.Shortest
import Reconciler.Text.Quoted
import Reconciler.Value.Basic

/-!
# Printed values

The two printed forms of a value: the literal, in which texts are quoted, and the plain text, which
differs from the literal only for a text, a time or bytes standing alone.
-/

namespace Reconciler

/-- The literal of a sequence of bytes. -/
def quotedBytes (bytes : List UInt8) : String :=
  let chars := bytes.map fun b => Char.ofNat b.toNat
  let quote := Text.enclosingQuote chars
  let form (c : Char) : List Char :=
    if c.toNat < 0x80 then Text.quoteChar quote c else Text.escapeUnprintable c
  "b" ++ String.ofList (quote :: chars.flatMap form ++ [quote])

namespace Timestamp

/-- The literal of a timestamp. -/
def literal (t : Timestamp) : String :=
  let day := s!"{t.day.year}, {t.day.month}, {t.day.day}"
  match t.clock with
  | none => "datetime.date(" ++ day ++ ")"
  | some c =>
    let seconds :=
      if c.micro != 0 then s!", {c.second}, {c.micro}"
      else if c.second != 0 then s!", {c.second}"
      else ""
    let zone :=
      match c.offset with
      | none => ""
      | some 0 => ", tzinfo=datetime.timezone.utc"
      | some minutes =>
        let days := if minutes < 0 then "days=-1, " else ""
        let seconds := (if minutes < 0 then minutes + 1440 else minutes) * 60
        s!", tzinfo=datetime.timezone(datetime.timedelta({days}seconds={seconds}))"
    s!"datetime.datetime({day}, {c.hour}, {c.minute}" ++ seconds ++ zone ++ ")"

end Timestamp

namespace Scalar

/-- The literal of a scalar. -/
def literal : Scalar → String
  | .null => "None"
  | .bool b => if b then "True" else "False"
  | .int n => toString n
  | .float x => Decimal.text x
  | .text s => Text.quoted s
  | .time t => t.literal
  | .binary bytes => quotedBytes bytes

/-- The plain text of a scalar. -/
def plain : Scalar → String
  | .text s => s
  | .time t => t.text
  | s => s.literal

end Scalar

namespace Value

mutual

/-- The literal of a value. -/
def literal : Value → String
  | .scalar s => s.literal
  | .list items => "[" ++ literalItems items ++ "]"
  | .map entries => "\x7b" ++ literalEntries entries ++ "\x7d"

/-- The literals of the items, separated by commas. -/
def literalItems : List Value → String
  | [] => ""
  | [v] => literal v
  | v :: rest => literal v ++ ", " ++ literalItems rest

/-- The literals of the entries, separated by commas. -/
def literalEntries : List (Scalar × Value) → String
  | [] => ""
  | [(k, v)] => k.literal ++ ": " ++ literal v
  | (k, v) :: rest => k.literal ++ ": " ++ literal v ++ ", " ++ literalEntries rest

end

/-- The plain text of a value. -/
def plain : Value → String
  | .scalar s => s.plain
  | v => v.literal

end Value

end Reconciler
