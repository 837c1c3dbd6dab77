import Reconciler.Json.Reader
import Reconciler.Text.Quoted
import Reconciler.Yaml.Token

/-!
# Scalars of a document

The texts of plain, quoted and indented scalars. Line breaks inside a plain or quoted scalar fold into
spaces, and an indented scalar keeps or folds its lines as its header says.
-/

namespace Reconciler.Yaml

/-- The outcome of reading at a place: what was read and the place behind it. -/
abbrev Scan (α : Type) := Except Fault (α × Cursor)

/-- A fault about a character that is found in a place where others are expected. -/
def unexpected {α : Type} (expected : String) (found : Char) : Except Fault α :=
  .error ("expected " ++ expected ++ ", but found " ++ Text.quoted (String.singleton found))

/-- The breaks between the lines of a quoted scalar. -/
def foldBreaks (c : Cursor) : Nat → Scan (List Char)
  | 0 => .ok ([], c)
  | bound + 1 =>
    if c.atMarker then .error "found unexpected document separator"
    else
      let c := c.skip fun ch => ch == ' ' || ch == '\t'
      if isBreak c.peek then
        match foldBreaks c.lineBreak.2 bound with
        | .ok (more, rest) => .ok (c.lineBreak.1 ++ more, rest)
        | .error fault => .error fault
      else .ok ([], c)

/-- The text that a line break and the breaks after it fold into. -/
def folded (first breaks : List Char) : List Char :=
  if first != ['\n'] then first ++ breaks else if breaks.isEmpty then [' '] else breaks

/-- White space inside a quoted scalar, folded when it holds a line break. -/
def quotedSpaces (c : Cursor) : Scan (List Char) :=
  let blank (ch : Char) : Bool := ch == ' ' || ch == '\t'
  let spaces := c.span blank
  let c := c.skip blank
  if c.peek == endMark then .error "found unexpected end of stream"
  else if isBreak c.peek then
    match foldBreaks c.lineBreak.2 (c.rest.length + 1) with
    | .ok (breaks, rest) => .ok (folded c.lineBreak.1 breaks, rest)
    | .error fault => .error fault
  else .ok (spaces, c)

/-- The character of an escape by a letter. -/
def letterEscape? (c : Char) : Option Char :=
  let letters : List (Char × Nat) :=
    [('0', 0), ('a', 7), ('b', 8), ('t', 9), ('\t', 9), ('n', 10), ('v', 11), ('f', 12), ('r', 13),
      ('e', 0x1B), (' ', 0x20), ('"', 0x22), ('\\', 0x5C), ('/', 0x2F), ('N', 0x85), ('_', 0xA0),
      ('L', 0x2028), ('P', 0x2029)]
  (letters.lookup c).map Char.ofNat

/-- The number of hexadecimal digits of an escape by number. -/
def codeWidth? (c : Char) : Option Nat :=
  if c == 'x' then some 2 else if c == 'u' then some 4 else if c == 'U' then some 8 else none

/-- The number that hexadecimal digits form. -/
def hexNumber? (digits : List Char) : Option Nat :=
  digits.foldl (fun n c => do pure (16 * (← n) + (← Json.hexValue? c))) (some 0)

/-- What an escape in a double-quoted scalar stands for; the place is behind the backslash. -/
def quotedEscape (c : Cursor) : Scan (List Char) :=
  match letterEscape? c.peek, codeWidth? c.peek with
  | some ch, _ => .ok ([ch], c.next)
  | none, some width =>
    let digits := c.next.rest.take width
    match hexNumber? digits with
    | some n =>
      if digits.length == width && n.isValidChar then .ok ([Char.ofNat n], c.next.forward width)
      else .error "expected escape sequence of hexadecimal numbers"
    | none => .error "expected escape sequence of hexadecimal numbers"
  | none, none =>
    if isBreak c.peek then foldBreaks c.lineBreak.2 (c.rest.length + 1)
    else .error ("found unknown escape character " ++ Text.quoted (String.singleton c.peek))

/-- The rest of a quoted scalar and the place behind its closing quote. -/
def quotedRest (double : Bool) (read : List Char) (c : Cursor) : Nat → Scan String
  | 0 => .error "found unexpected end of stream"
  | bound + 1 =>
    let quote := if double then '"' else Text.singleQuote
    let ch := c.peek
    let put (part : List Char) (c : Cursor) : Scan String :=
      quotedRest double (part.reverse ++ read) c bound
    if !double && ch == quote && c.peekAt 1 == quote then put [quote] (c.forward 2)
    else if ch == quote then .ok (String.ofList read.reverse, c.next)
    else if double && ch == '\\' then
      match quotedEscape c.next with
      | .ok (part, c) => put part c
      | .error fault => .error fault
    else if isSeparator ch then
      match quotedSpaces c with
      | .ok (part, c) => put part c
      | .error fault => .error fault
    else put [ch] c.next

/-- The quoted scalar at the place. -/
def quotedScalar (c : Cursor) : Scan Token :=
  match quotedRest (c.peek == '"') [] c.next (c.rest.length + 1) with
  | .ok (text, rest) => .ok (.scalar text false, rest)
  | .error fault => .error fault

/-- The breaks behind the first one inside a plain scalar; nothing when a marker ends it. -/
def plainBreaks (c : Cursor) : Nat → Option (List Char) × Cursor
  | 0 => (some [], c)
  | bound + 1 =>
    let c := c.skip (· == ' ')
    if isBreak c.peek then
      let rest := c.lineBreak.2
      if rest.atMarker then (none, rest)
      else
        let (more, rest) := plainBreaks rest bound
        (more.map (c.lineBreak.1 ++ ·), rest)
    else (some [], c)

/-- White space inside a plain scalar, folded when it holds a line break, and whether it does. -/
def plainSpaces (c : Cursor) : List Char × Bool × Cursor :=
  let spaces := c.span (· == ' ')
  let c := c.skip (· == ' ')
  if isBreak c.peek then
    let rest := c.lineBreak.2
    if rest.atMarker then ([], true, rest)
    else
      match plainBreaks rest (rest.rest.length + 1) with
      | (some breaks, rest) => (folded c.lineBreak.1 breaks, true, rest)
      | (none, rest) => ([], true, rest)
  else (spaces, false, c)

/-- The characters that end a word of a plain scalar inside brackets. -/
def isFlowIndicator (c : Char) : Bool :=
  c == ',' || c == '[' || c == ']' || c == '\x7b' || c == '\x7d'

/-- The word of a plain scalar at the start of a text. -/
def plainWord (flow : Bool) : List Char → List Char
  | [] => []
  | c :: rest =>
    let after := rest.headD endMark
    if isSeparator c || (c == ':' && (isSeparator after || (flow && isFlowIndicator after))) ||
        (flow && (c == '?' || isFlowIndicator c)) then []
    else c :: plainWord flow rest

/-- The rest of a plain scalar, the place behind it, and whether a line break was passed last. -/
def plainRest (flow : Bool) (indent : Int) (read spaces : List Char) (broken : Bool) (c : Cursor) :
    Nat → List Char × Bool × Cursor
  | 0 => (read, broken, c)
  | bound + 1 =>
    let word := if c.peek == '#' then [] else plainWord flow c.rest
    if word.isEmpty then (read, broken, c)
    else
      let read := read ++ spaces ++ word
      let (spaces, broken, c) := plainSpaces (c.forward word.length)
      if spaces.isEmpty || c.peek == '#' || (!flow && (c.column : Int) < indent) then (read, broken, c)
      else plainRest flow indent read spaces broken c bound

/-- The plain scalar at the place; a key may follow when a line break was passed last. -/
def plainScalar (flow : Bool) (indent : Int) (c : Cursor) : Token × Bool × Cursor :=
  let (text, broken, rest) := plainRest flow (indent + 1) [] [] false c (c.rest.length + 1)
  (.scalar (String.ofList text) true, broken, rest)

/-- What becomes of the line breaks at the end of an indented scalar. -/
inductive Chomping where
  /-- None is kept. -/
  | strip
  /-- One is kept. -/
  | clip
  /-- All are kept. -/
  | keep
deriving DecidableEq, Repr

/-- The header of an indented scalar. -/
structure BlockHeader where
  /-- What becomes of the last line breaks. -/
  chomping : Chomping
  /-- The stated indentation. -/
  indentation : Option Nat

/-- The chomping that an indicator asks for. -/
def chomping? (c : Char) : Option Chomping :=
  if c == '+' then some .keep else if c == '-' then some .strip else none

/-- The indentation that a digit states. -/
def indentation? (c : Char) : Except Fault (Option Nat) :=
  if Json.isDigit c then
    if c == '0' then .error "expected indentation indicator in the range 1-9, but found 0"
    else .ok (some (c.toNat - 0x30))
  else .ok none

/-- The place behind the comment and the line break at the end of a line. -/
def finishLine (c : Cursor) : Except Fault Cursor :=
  let c := c.skip (· == ' ')
  let c := if c.peek == '#' then c.skip fun ch => !isLineEnd ch else c
  if isLineEnd c.peek then .ok c.lineBreak.2
  else unexpected "a comment or a line break" c.peek

/-- The header of an indented scalar and the place behind its line. -/
def blockHeader (c : Cursor) : Except Fault (BlockHeader × Cursor) := do
  let (chomping, indentation, c) ←
    match chomping? c.peek with
    | some chomping => do
      let indentation ← indentation? c.next.peek
      pure (chomping, indentation, if indentation.isSome then c.next.next else c.next)
    | none => do
      let indentation ← indentation? c.peek
      let c := if indentation.isSome then c.next else c
      match indentation.bind fun _ => chomping? c.peek with
      | some chomping => pure (chomping, indentation, c.next)
      | none => pure (.clip, indentation, c)
  if isSpaceEnd c.peek then pure (⟨chomping, indentation⟩, ← finishLine c)
  else unexpected "chomping or indentation indicators" c.peek

/-- The empty lines at the start of an indented scalar and the deepest indentation among them. -/
def blockIndentation (c : Cursor) (deepest : Nat) : Nat → List Char × Nat × Cursor
  | 0 => ([], deepest, c)
  | bound + 1 =>
    if c.peek == ' ' then blockIndentation c.next (max deepest c.next.column) bound
    else if isBreak c.peek then
      let (breaks, deepest, rest) := blockIndentation c.lineBreak.2 deepest bound
      (c.lineBreak.1 ++ breaks, deepest, rest)
    else ([], deepest, c)

/-- The place behind the spaces of an indentation. -/
def skipIndent (indent : Nat) (c : Cursor) : Cursor :=
  c.forward (min (indent - c.column) (c.span (· == ' ')).length)

/-- The empty lines inside an indented scalar. -/
def blockBreaks (indent : Nat) (c : Cursor) : Nat → List Char × Cursor
  | 0 => ([], c)
  | bound + 1 =>
    let c := skipIndent indent c
    if isBreak c.peek then
      let (breaks, rest) := blockBreaks indent c.lineBreak.2 bound
      (c.lineBreak.1 ++ breaks, rest)
    else ([], c)

/-- The lines of an indented scalar behind the given breaks, with the last line break and the breaks
after it. -/
def blockLines (fold : Bool) (indent : Nat) (breaks : List Char) (c : Cursor) :
    Nat → List Char × List Char × List Char × Cursor
  | 0 => ([], [], breaks, c)
  | bound + 1 =>
    if c.column == indent && c.peek != endMark then
      let leading := c.peek != ' ' && c.peek != '\t'
      let line := c.span fun ch => !isLineEnd ch
      let c := c.forward line.length
      let (lineEnd, c) := c.lineBreak
      let (after, c) := blockBreaks indent c (c.rest.length + 1)
      if c.column == indent && c.peek != endMark then
        let joint :=
          if fold && lineEnd == ['\n'] && leading && c.peek != ' ' && c.peek != '\t' then
            if after.isEmpty then [' '] else []
          else lineEnd
        let (more, last, tail, c) := blockLines fold indent after c bound
        (breaks ++ line ++ joint ++ more, last, tail, c)
      else (breaks ++ line, lineEnd, after, c)
    else ([], [], breaks, c)

/-- The indented scalar at the place. -/
def blockScalar (outer : Int) (c : Cursor) : Except Fault (Token × Cursor) := do
  let fold := c.peek == '>'
  let (header, c) ← blockHeader c.next
  let least := (max (outer + 1) 1).toNat
  let (breaks, indent, c) :=
    match header.indentation with
    | none =>
      let (breaks, deepest, c) := blockIndentation c 0 (c.rest.length + 1)
      (breaks, max least deepest, c)
    | some n =>
      let indent := least + n - 1
      let (breaks, c) := blockBreaks indent c (c.rest.length + 1)
      (breaks, indent, c)
  let (text, last, tail, c) := blockLines fold indent breaks c (c.rest.length + 1)
  let kept :=
    match header.chomping with
    | .strip => []
    | .clip => last
    | .keep => last ++ tail
  pure (.scalar (String.ofList (text ++ kept)) false, c)

end Reconciler.Yaml
