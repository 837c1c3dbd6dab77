/-!
# Places in a document text

The rest of a text together with the line and column of its first character, and the line breaks and
separators that the structure of a document is made of.
-/

namespace Reconciler.Yaml

/-- The character that stands for the end of the text. -/
def endMark : Char := Char.ofNat 0

/-- The character ends a line. -/
def isBreak (c : Char) : Bool :=
  c == '\n' || c == '\r' || c.toNat == 0x85 || c.toNat == 0x2028 || c.toNat == 0x2029

/-- The character ends a line or the text. -/
def isLineEnd (c : Char) : Bool :=
  c == endMark || isBreak c

/-- The character is a space or ends a line or the text. -/
def isSpaceEnd (c : Char) : Bool :=
  c == ' ' || isLineEnd c

/-- The character separates two words: a space, a tab, or the end of a line or the text. -/
def isSeparator (c : Char) : Bool :=
  c == '\t' || isSpaceEnd c

/-- A place in a text. -/
structure Cursor where
  /-- The characters from the place on. -/
  rest : List Char
  /-- The number of characters before the place. -/
  index : Nat
  /-- The number of lines before the place. -/
  line : Nat
  /-- The number of characters before the place on its line. -/
  column : Nat

namespace Cursor

/-- The start of a text. -/
def start (text : List Char) : Cursor :=
  ⟨text, 0, 0, 0⟩

/-- The first character. -/
def peek (c : Cursor) : Char :=
  c.rest.headD endMark

/-- The character at a distance. -/
def peekAt (c : Cursor) (n : Nat) : Char :=
  (c.rest[n]?).getD endMark

/-- The place behind the first character. -/
def next (c : Cursor) : Cursor :=
  match c.rest with
  | [] => c
  | ch :: rest =>
    if ch == '\n' || (isBreak ch && !(ch == '\r' && rest.head? == some '\n')) then
      ⟨rest, c.index + 1, c.line + 1, 0⟩
    else if ch.toNat == 0xFEFF then ⟨rest, c.index + 1, c.line, c.column⟩
    else ⟨rest, c.index + 1, c.line, c.column + 1⟩

/-- The place behind a number of characters. -/
def forward (c : Cursor) : Nat → Cursor
  | 0 => c
  | n + 1 => forward c.next n

/-- The characters of a class at the place. -/
def span (c : Cursor) (accepts : Char → Bool) : List Char :=
  c.rest.takeWhile accepts

/-- The place behind the characters of a class. -/
def skip (c : Cursor) (accepts : Char → Bool) : Cursor :=
  c.forward (c.span accepts).length

/-- The text continues with a word. -/
def startsWith (c : Cursor) (word : String) : Bool :=
  word.toList.isPrefixOf c.rest

/-- The line break at the place as it reads, and the place behind it; nothing where there is none. -/
def lineBreak (c : Cursor) : List Char × Cursor :=
  if c.startsWith "\r\n" then (['\n'], c.forward 2)
  else if c.peek == '\n' || c.peek == '\r' || c.peek.toNat == 0x85 then (['\n'], c.next)
  else if isBreak c.peek then ([c.peek], c.next)
  else ([], c)

/-- A line of three dashes or three dots starts at the place. -/
def atMarker (c : Cursor) : Bool :=
  (c.startsWith "---" || c.startsWith "...") && isSeparator (c.peekAt 3)

end Cursor

end Reconciler.Yaml
