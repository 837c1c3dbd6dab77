import Reconciler.Yaml.Scalar

/-!
# Directives, anchors and tags

The parts of a document that are written as names: the directives at its head, the anchors and
aliases of nodes, and tags with their handles.
-/

namespace Reconciler.Yaml

/-- The character belongs to a name. -/
def isNameChar (c : Char) : Bool :=
  Json.isDigit c || ('a' ≤ c && c ≤ 'z') || ('A' ≤ c && c ≤ 'Z') || c == '-' || c == '_'

/-- The character belongs to the written form of a tag. -/
def isTagChar (c : Char) : Bool :=
  isNameChar c || ";/?:@&=+$,.!~*()[]%".toList.contains c || c == Text.singleQuote

/-- The bytes of the escapes at the start of a text, and the text behind them. -/
def uriBytes : List Char → Nat → List UInt8 × List Char
  | '%' :: a :: b :: rest, bound + 1 =>
    match Json.hexValue? a, Json.hexValue? b with
    | some high, some low =>
      let (bytes, rest) := uriBytes rest bound
      (UInt8.ofNat (16 * high + low) :: bytes, rest)
    | _, _ => ([], '%' :: a :: b :: rest)
  | rest, _ => ([], rest)

/-- The text of the written form of a tag. -/
def tagText (written : List Char) : Nat → Except Fault (List Char)
  | 0 => .ok []
  | bound + 1 =>
    match written with
    | [] => .ok []
    | '%' :: _ =>
      let (bytes, rest) := uriBytes written written.length
      match String.fromUTF8? (ByteArray.mk bytes.toArray) with
      | some text =>
        if bytes.isEmpty then .error "expected URI escape sequence of 2 hexadecimal numbers"
        else do pure (text.toList ++ (← tagText rest bound))
      | none => .error "cannot decode URI escape sequence"
    | c :: rest => do pure (c :: (← tagText rest bound))

/-- The written form of a tag at the place. -/
def tagUri (c : Cursor) : Except Fault (String × Cursor) := do
  let written := c.span isTagChar
  if written.isEmpty then unexpected "URI" c.peek
  else
    let text ← tagText written written.length
    pure (String.ofList text, c.forward written.length)

/-- The handle of a tag at the place: a mark, or a name between two marks. -/
def tagHandle (c : Cursor) : Scan String :=
  if c.peek != '!' then unexpected "'!'" c.peek
  else if c.peekAt 1 == ' ' then .ok ("!", c.next)
  else
    let name := c.next.span isNameChar
    if c.peekAt (name.length + 1) == '!' then
      .ok ("!" ++ String.ofList name ++ "!", c.forward (name.length + 2))
    else if name.isEmpty then .ok ("!", c.next)
    else unexpected "'!'" (c.peekAt (name.length + 1))

/-- The characters of a tag up to its end or its second mark hold that mark. -/
def hasHandle (c : Cursor) : Bool :=
  let word := c.next.span fun ch => !isSpaceEnd ch
  word.contains '!'

/-- The tag at the place. -/
def tag (c : Cursor) : Except Fault (Token × Cursor) := do
  let (token, rest) ←
    if c.peekAt 1 == '<' then do
      let (suffix, rest) ← tagUri (c.forward 2)
      if rest.peek == '>' then pure (Token.tag none suffix, rest.next)
      else unexpected "'>'" rest.peek
    else if isSeparator (c.peekAt 1) then pure (Token.tag none "!", c.next)
    else do
      let (handle, rest) ← if hasHandle c then tagHandle c else pure ("!", c.next)
      let (suffix, rest) ← tagUri rest
      pure (Token.tag (some handle) suffix, rest)
  if isSpaceEnd rest.peek then pure (token, rest) else unexpected "' '" rest.peek

/-- The name behind the mark of an anchor or alias. -/
def anchorName (c : Cursor) : Scan String :=
  let name := c.next.span isNameChar
  let rest := c.next.forward name.length
  if name.isEmpty then unexpected "alphabetic or numeric character" rest.peek
  else if isSeparator rest.peek || "?:,]\x7d%@".toList.contains rest.peek ||
      rest.peek.toNat == 0x60 then
    .ok (String.ofList name, rest)
  else unexpected "alphabetic or numeric character" rest.peek

/-- A number in a directive. -/
def directiveNumber (c : Cursor) : Scan Nat :=
  let digits := c.span Json.isDigit
  if digits.isEmpty then unexpected "a digit" c.peek
  else .ok (Json.digitsValue digits, c.forward digits.length)

/-- The directive at the place and the place behind its line. -/
def directive (c : Cursor) : Except Fault (Token × Cursor) := do
  let name := c.next.span isNameChar
  let rest := c.next.forward name.length
  if name.isEmpty || !isSpaceEnd rest.peek then
    unexpected "alphabetic or numeric character" rest.peek
  else
    let word := String.ofList name
    let behind := rest.skip (· == ' ')
    let (d, rest) ←
      if word == "YAML" then do
        let (major, rest) ← directiveNumber behind
        if rest.peek == '.' then
          let (minor, rest) ← directiveNumber rest.next
          if isSpaceEnd rest.peek then pure (Directive.version major minor, rest)
          else unexpected "a digit or ' '" rest.peek
        else unexpected "a digit or '.'" rest.peek
      else if word == "TAG" then do
        let (handle, rest) ← tagHandle behind
        if rest.peek == ' ' then
          let (start, rest) ← tagUri (rest.skip (· == ' '))
          if isSpaceEnd rest.peek then pure (Directive.tag handle start, rest)
          else unexpected "' '" rest.peek
        else unexpected "' '" rest.peek
      else pure (Directive.reserved, rest.skip fun ch => !isLineEnd ch)
    pure (.directive d, ← finishLine rest)

end Reconciler.Yaml
