import Reconciler.Text.Class
import Reconciler.Text.Points
import Reconciler.Value.Basic

/-!
# Reading JSON

A strict reader for the interchange format, which also takes the names of the floating-point numbers
that are not finite. Whole numbers keep all their digits; a fault says where it was found. What is read
is a tree, in whose texts the surrogates stand that were written; the value of a tree shows its texts as
strings.
-/

namespace Reconciler.Json

open Text (Point Points)

/-- A value as it is written. -/
inductive Tree where
  /-- A value that has no parts and is no text. -/
  | atom (scalar : Scalar)
  /-- A text. -/
  | text (points : Points)
  /-- A list. -/
  | list (items : List Tree)
  /-- A map with its members, in the order in which they are written. -/
  | map (members : List (Points × Tree))

namespace Tree

mutual

/-- The value of a tree. Texts are those of its texts that have a UTF-8 form; of another text the value
has the string that it is shown as. -/
def value : Tree → Value
  | .atom scalar => .scalar scalar
  | .text points => .text points.shown
  | .list items => .list (values items)
  | .map members => .map (Fields.ofEntries (entries members))

/-- The values of the items of a list. -/
def values : List Tree → List Value
  | [] => []
  | item :: items => item.value :: values items

/-- The entries that the members of a map are written as. -/
def entries : List (Points × Tree) → List (Scalar × Value)
  | [] => []
  | (name, member) :: members => (.text name.shown, member.value) :: entries members

end

end Tree

/-- What is wrong with a text. -/
inductive Problem where
  /-- A value was expected. -/
  | value
  /-- The name of a member was expected. -/
  | name
  /-- A colon was expected. -/
  | colon
  /-- A comma was expected. -/
  | comma
  /-- A string has no end. -/
  | unterminated
  /-- A string holds a control character. -/
  | control
  /-- A backslash introduces no escape. -/
  | escape
  /-- An escape by number lacks digits. -/
  | codeEscape
  /-- The text goes on after the value. -/
  | extra
  /-- The text starts with a byte order mark. -/
  | byteOrderMark
deriving DecidableEq, Repr

/-- The wording of a problem. -/
def Problem.text : Problem → String
  | .value => "Expecting value"
  | .name => "Expecting property name enclosed in double quotes"
  | .colon => "Expecting ':' delimiter"
  | .comma => "Expecting ',' delimiter"
  | .unterminated => "Unterminated string starting at"
  | .control => "Invalid control character at"
  | .escape => "Invalid \\escape"
  | .codeEscape => "Invalid \\uXXXX escape"
  | .extra => "Extra data"
  | .byteOrderMark => "Unexpected UTF-8 BOM (decode using utf-8-sig)"

/-- A problem and the number of characters that were left when it was found. -/
structure Fault where
  /-- The problem. -/
  problem : Problem
  /-- The number of characters from the place of the problem to the end. -/
  left : Nat
deriving DecidableEq, Repr

/-- The wording of a fault found in a text. -/
def Fault.message (text : List Char) (fault : Fault) : String :=
  let position := text.length - fault.left
  let before := text.take position
  let line := before.count '\n' + 1
  let column := (before.reverse.takeWhile (· != '\n')).length + 1
  s!"{fault.problem.text}: line {line} column {column} (char {position})"

/-- The outcome of a reading step: what was read and what is left. -/
abbrev Step (α : Type) := Except Fault (α × List Char)

/-- A fault at the start of what is left. -/
def faultAt {α : Type} (problem : Problem) (rest : List Char) : Except Fault α :=
  .error ⟨problem, rest.length⟩

/-- The text behind insignificant white space. -/
def skip (cs : List Char) : List Char :=
  cs.dropWhile fun c => c == ' ' || c == '\t' || c == '\n' || c == '\r'

/-- The value of a hexadecimal digit. -/
def hexValue? (c : Char) : Option Nat :=
  let n := c.toNat
  if 0x30 ≤ n && n ≤ 0x39 then some (n - 0x30)
  else if 0x41 ≤ n && n ≤ 0x46 then some (n - 0x41 + 10)
  else if 0x61 ≤ n && n ≤ 0x66 then some (n - 0x61 + 10)
  else none

/-- The number that four hexadecimal digits at the start of the text form. -/
def hexWord? : List Char → Option (Nat × List Char)
  | a :: b :: c :: d :: rest => do
    let a ← hexValue? a
    let b ← hexValue? b
    let c ← hexValue? c
    let d ← hexValue? d
    pure (((a * 16 + b) * 16 + c) * 16 + d, rest)
  | _ => none

/-- The character of a simple escape. -/
def simpleEscape? (c : Char) : Option Char :=
  if c == '"' || c == '\\' || c == '/' then some c
  else if c == 'b' then some (Char.ofNat 8)
  else if c == 'f' then some (Char.ofNat 12)
  else if c == 'n' then some '\n'
  else if c == 'r' then some '\r'
  else if c == 't' then some '\t'
  else none

/-- The code point of one or two escaped UTF-16 units; a surrogate without its partner stands alone. -/
def pairUnits (first : Nat) (rest : List Char) : Point × List Char :=
  let alone := (Point.ofUnit first, rest)
  if 0xD800 ≤ first && first ≤ 0xDBFF then
    match rest with
    | '\\' :: 'u' :: more =>
      match hexWord? more with
      | some (second, after) =>
        if 0xDC00 ≤ second && second ≤ 0xDFFF then
          (.char (Char.ofNat (0x10000 + (first - 0xD800) * 0x400 + (second - 0xDC00))), after)
        else alone
      | none => alone
    | _ => alone
  else alone

/-- Reads the rest of a string; `start` counts the characters left at its opening quote. -/
def readString (start : Nat) (read : Points) : Nat → List Char → Step Points
  | 0, _ | _, [] => .error ⟨.unterminated, start⟩
  | bound + 1, c :: rest =>
    if c == '"' then .ok (read.reverse, rest)
    else if c == '\\' then
      match rest with
      | [] => .error ⟨.unterminated, start⟩
      | 'u' :: digits =>
        match hexWord? digits with
        | none => faultAt .codeEscape digits
        | some (unit, after) =>
          let (point, after) := pairUnits unit after
          readString start (point :: read) bound after
      | e :: after =>
        match simpleEscape? e with
        | some c => readString start (.char c :: read) bound after
        | none => faultAt .escape (c :: rest)
    else if c.toNat < 0x20 then faultAt .control (c :: rest)
    else readString start (.char c :: read) bound rest

/-- The character is one of the ten basic digits. -/
def isDigit (c : Char) : Bool :=
  0x30 ≤ c.toNat && c.toNat ≤ 0x39

/-- The number that basic digits form. -/
def digitsValue (cs : List Char) : Nat :=
  cs.foldl (fun n c => 10 * n + (c.toNat - 0x30)) 0

/-- The digits of a fraction and the text after them; the fraction needs a digit. -/
def readFraction : List Char → List Char × List Char
  | '.' :: rest =>
    let digits := rest.takeWhile isDigit
    if digits.isEmpty then ([], '.' :: rest) else (digits, rest.dropWhile isDigit)
  | rest => ([], rest)

/-- The exponent of a number and the text after it; the exponent needs a digit. -/
def readExponent : List Char → Option Int × List Char
  | e :: rest =>
    if e == 'e' || e == 'E' then
      let (negative, unsigned) :=
        match rest with
        | '-' :: more => (true, more)
        | '+' :: more => (false, more)
        | more => (false, more)
      let digits := unsigned.takeWhile isDigit
      if digits.isEmpty then (none, e :: rest)
      else
        let size := (digitsValue digits : Int)
        (some (if negative then -size else size), unsigned.dropWhile isDigit)
    else (none, e :: rest)
  | [] => (none, [])

/-- Reads the digits of a number behind its sign. -/
def readNumber? (negative : Bool) (cs : List Char) : Option (Scalar × List Char) :=
  let whole := match cs with
    | '0' :: _ => ['0']
    | _ => cs.takeWhile isDigit
  if whole.isEmpty then none
  else
    let (fraction, rest) := readFraction (cs.drop whole.length)
    let (exponent, rest) := readExponent rest
    if fraction.isEmpty && exponent.isNone then
      if Text.digitLimit < whole.length then none
      else
        let n := (digitsValue whole : Int)
        some (.int (if negative then -n else n), rest)
    else
      let scale := exponent.getD 0 - fraction.length
      some (.float (Decimal.nearest negative (digitsValue (whole ++ fraction)) scale), rest)

/-- The names of scalars, with the scalars. -/
def names : List (String × Scalar) :=
  [("null", .null), ("true", .bool true), ("false", .bool false),
    ("NaN", .float (Float.ofBits 0x7FF8000000000000)),
    ("Infinity", .float (Float.ofBits 0x7FF0000000000000)),
    ("-Infinity", .float (Float.ofBits 0xFFF0000000000000))]

/-- Reads a value that has no parts and is no text. -/
def readAtom (cs : List Char) : Step Tree :=
  match names.find? fun entry => entry.1.toList.isPrefixOf cs with
  | some (name, scalar) => .ok (.atom scalar, cs.drop name.length)
  | none =>
    let number := match cs with
      | '-' :: rest => readNumber? true rest
      | rest => readNumber? false rest
    match number with
    | some (scalar, rest) => .ok (.atom scalar, rest)
    | none => faultAt .value cs

mutual

/-- Reads a value at the start of the text. -/
def readValue : Nat → List Char → Step Tree
  | 0, cs => faultAt .value cs
  | bound + 1, cs =>
    match cs with
    | '"' :: rest =>
      match readString cs.length [] rest.length.succ rest with
      | .ok (text, rest) => .ok (.text text, rest)
      | .error fault => .error fault
    | '[' :: rest =>
      match skip rest with
      | ']' :: after => .ok (.list [], after)
      | start => readItems bound [] start
    | '\x7b' :: rest =>
      match skip rest with
      | '\x7d' :: after => .ok (.map [], after)
      | start => readMembers bound [] start
    | cs => readAtom cs

/-- Reads the items of a list and its end. -/
def readItems : Nat → List Tree → List Char → Step Tree
  | 0, _, cs => faultAt .value cs
  | bound + 1, read, cs =>
    match readValue bound cs with
    | .error fault => .error fault
    | .ok (item, rest) =>
      match skip rest with
      | ',' :: more => readItems bound (item :: read) (skip more)
      | ']' :: after => .ok (.list (item :: read).reverse, after)
      | rest => faultAt .comma rest

/-- Reads the members of a map and its end. -/
def readMembers : Nat → List (Points × Tree) → List Char → Step Tree
  | 0, _, cs => faultAt .value cs
  | bound + 1, read, cs =>
    match cs with
    | '"' :: rest =>
      match readString cs.length [] rest.length.succ rest with
      | .error fault => .error fault
      | .ok (name, rest) =>
        match skip rest with
        | ':' :: more =>
          match readValue bound (skip more) with
          | .error fault => .error fault
          | .ok (member, rest) =>
            let read := (name, member) :: read
            match skip rest with
            | ',' :: more => readMembers bound read (skip more)
            | '\x7d' :: after => .ok (.map read.reverse, after)
            | rest => faultAt .comma rest
        | rest => faultAt .colon rest
    | cs => faultAt .name cs

end

/-- Reads a text that holds one value, as the tree that is written. -/
def readTree (cs : List Char) : Except Fault Tree :=
  match cs with
  | [] => faultAt .value []
  | c :: _ =>
    if c.toNat == 0xFEFF then faultAt .byteOrderMark cs
    else
      match readValue (2 * cs.length + 2) (skip cs) with
      | .error fault => .error fault
      | .ok (tree, rest) =>
        match skip rest with
        | [] => .ok tree
        | rest => faultAt .extra rest

/-- Reads a text that holds one value. -/
def readChars (cs : List Char) : Except Fault Value :=
  (readTree cs).map Tree.value

/-- Reads a text that holds one value; the fault is given in words. -/
def parse (s : String) : Except String Value :=
  (readChars s.toList).mapError (Fault.message s.toList)

theorem parse_ofList {cs : List Char} {value : Value} (read : readChars cs = .ok value) :
    parse (String.ofList cs) = .ok value := by
  rw [parse, String.toList_ofList, read]
  rfl

end Reconciler.Json
