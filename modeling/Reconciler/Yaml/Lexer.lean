import Reconciler.Yaml.Names

/-!
# From text to tokens

The tokens of a text. Indentation becomes starts and ends of collections, and a scalar or collection
turns out to be a key when a colon follows on its line.
-/

namespace Reconciler.Yaml

/-- A token that is a key if a colon follows it. -/
structure KeyCandidate where
  /-- The number of tokens before it. -/
  position : Nat
  /-- The token can only be a key. -/
  required : Bool
  /-- The place at which it starts. -/
  cursor : Cursor

/-- The state between two tokens. -/
structure Lexer where
  /-- The place in the text. -/
  cursor : Cursor
  /-- The number of open brackets. -/
  flow : Nat
  /-- The indentation of the innermost collection. -/
  indent : Int
  /-- The indentations of the collections around it. -/
  indents : List Int
  /-- A key may start at the place. -/
  keyAllowed : Bool
  /-- The candidates for keys, by the number of brackets around them. -/
  candidates : List (Nat × KeyCandidate)
  /-- The tokens so far. -/
  tokens : Array Token

/-- Steps of the reading of tokens. -/
abbrev Lexing := EStateM Fault Lexer

namespace Lexer

/-- Appends a token. -/
def emit (token : Token) : Lexing Unit :=
  modify fun s => { s with tokens := s.tokens.push token }

/-- Moves behind a number of characters. -/
def advance (n : Nat) : Lexing Unit :=
  modify fun s => { s with cursor := s.cursor.forward n }

/-- Says whether a key may start at the place that follows. -/
def allowKey (allowed : Bool) : Lexing Unit :=
  modify fun s => { s with keyAllowed := allowed }

/-- The fault of a key without its colon. -/
def noColon : Fault := "could not find expected ':'"

/-- Drops the candidate inside the present brackets. -/
def dropCandidate : Lexing Unit := do
  let s ← get
  match s.candidates.lookup s.flow with
  | some candidate =>
    if candidate.required then throw noColon
    else set { s with candidates := s.candidates.filter fun entry => entry.1 != s.flow }
  | none => pure ()

/-- Makes the token that follows a candidate. -/
def addCandidate : Lexing Unit := do
  if (← get).keyAllowed then
    dropCandidate
    modify fun s =>
      { s with
        candidates :=
          (s.flow,
            ⟨s.tokens.size, s.flow == 0 && s.indent == s.cursor.column, s.cursor⟩) :: s.candidates }

/-- The candidate is too far back to be a key. -/
def isStale (cursor : Cursor) (candidate : KeyCandidate) : Bool :=
  candidate.cursor.line != cursor.line || 1024 < cursor.index - candidate.cursor.index

/-- Drops the candidates that are too far back. -/
def dropStale : Lexing Unit := do
  let s ← get
  let stale := s.candidates.filter fun entry => isStale s.cursor entry.2
  if stale.any fun entry => entry.2.required then throw noColon
  else
    set { s with candidates := s.candidates.filter fun entry => !isStale s.cursor entry.2 }

/-- The number of collections deeper than a column, and what is left of the indentations. -/
def unwound (column : Int) (indent : Int) : List Int → Nat × Int × List Int
  | [] => (0, indent, [])
  | outer :: rest =>
    if column < indent then
      let (n, indent, indents) := unwound column outer rest
      (n + 1, indent, indents)
    else (0, indent, outer :: rest)

/-- Ends the collections that are indented deeper than a column. -/
def unwind (column : Int) : Lexing Unit :=
  modify fun s =>
    if s.flow != 0 then s
    else
      let (n, indent, indents) := unwound column s.indent s.indents
      { s with indent, indents, tokens := s.tokens ++ Array.replicate n Token.blockEnd }

/-- Starts a collection at a column unless one is indented as deep; says whether it did. -/
def deepen (column : Nat) : Lexing Bool := do
  let s ← get
  if s.indent < column then
    set { s with indents := s.indent :: s.indents, indent := (column : Int) }
    pure true
  else pure false

/-- Moves to the next token, past spaces, comments and line breaks. -/
def skipBlank : Nat → Lexing Unit
  | 0 => pure ()
  | bound + 1 => do
    let s ← get
    let c := s.cursor.skip (· == ' ')
    let c := if c.peek == '#' then c.skip fun ch => !isLineEnd ch else c
    if isBreak c.peek then
      set { s with cursor := c.lineBreak.2, keyAllowed := s.keyAllowed || s.flow == 0 }
      skipBlank bound
    else set { s with cursor := c }

/-- An end of all collections, with no key allowed behind it. -/
def closeAll : Lexing Unit := do
  unwind (-1)
  dropCandidate
  allowKey false

/-- A marker of three characters. -/
def marker (token : Token) : Lexing Unit := do
  closeAll
  advance 3
  emit token

/-- An opening bracket, which may start a key. -/
def openFlow (token : Token) : Lexing Unit := do
  addCandidate
  modify fun s => { s with flow := s.flow + 1 }
  allowKey true
  advance 1
  emit token

/-- A closing bracket. -/
def closeFlow (token : Token) : Lexing Unit := do
  dropCandidate
  modify fun s => { s with flow := s.flow - 1 }
  allowKey false
  advance 1
  emit token

/-- A comma between brackets. -/
def flowEntry : Lexing Unit := do
  allowKey true
  dropCandidate
  advance 1
  emit .flowEntry

/-- Starts a collection at the place, outside brackets, where a key or item may start. -/
def startBlock (start : Token) (refusal : Fault) : Lexing Unit := do
  let s ← get
  if s.flow == 0 then
    if !s.keyAllowed then throw refusal
    else if ← deepen s.cursor.column then emit start

/-- The dash of an item. -/
def blockEntry : Lexing Unit := do
  startBlock .blockSequenceStart "sequence entries are not allowed here"
  allowKey true
  dropCandidate
  advance 1
  emit .blockEntry

/-- The mark of a key that is written out. -/
def explicitKey : Lexing Unit := do
  startBlock .blockMappingStart "mapping keys are not allowed here"
  allowKey ((← get).flow == 0)
  dropCandidate
  advance 1
  emit .key

/-- The colon before a value; the candidate inside the present brackets becomes a key. -/
def value : Lexing Unit := do
  let s ← get
  match s.candidates.lookup s.flow with
  | some candidate =>
    set
      { s with
        candidates := s.candidates.filter fun entry => entry.1 != s.flow
        tokens := s.tokens.insertIdxIfInBounds candidate.position Token.key }
    if s.flow == 0 then
      if ← deepen candidate.cursor.column then
        modify fun s =>
          { s with tokens := s.tokens.insertIdxIfInBounds candidate.position .blockMappingStart }
    allowKey false
  | none =>
    startBlock .blockMappingStart "mapping values are not allowed here"
    allowKey (s.flow == 0)
    dropCandidate
  advance 1
  emit .value

/-- A token that may be a key, read by a scan. -/
def candidateToken (scan : Cursor → Scan Token) : Lexing Unit := do
  addCandidate
  allowKey false
  match scan (← get).cursor with
  | .ok (token, cursor) =>
    modify fun s => { s with cursor }
    emit token
  | .error fault => throw fault

/-- A plain scalar; a key may follow it on a new line. -/
def plain : Lexing Unit := do
  addCandidate
  let s ← get
  let (token, broken, cursor) := plainScalar (s.flow != 0) s.indent s.cursor
  set { s with cursor, keyAllowed := broken }
  emit token

/-- An indented scalar. -/
def block : Lexing Unit := do
  allowKey true
  dropCandidate
  let s ← get
  match blockScalar s.indent s.cursor with
  | .ok (token, cursor) =>
    set { s with cursor }
    emit token
  | .error fault => throw fault

/-- A directive. -/
def directiveLine : Lexing Unit := do
  closeAll
  match directive (← get).cursor with
  | .ok (token, cursor) =>
    modify fun s => { s with cursor }
    emit token
  | .error fault => throw fault

/-- A plain scalar can start at the place. -/
def startsPlain (flow : Bool) (c : Cursor) : Bool :=
  let ch := c.peek
  let special :=
    isSeparator ch || "-?:,[]\x7b\x7d#&*!|>\"%@".toList.contains ch || ch == Text.singleQuote ||
      ch.toNat == 0x60
  !special ||
    (!isSeparator (c.peekAt 1) && (ch == '-' || (!flow && (ch == '?' || ch == ':'))))

/-- Reads the next token; says whether it is the last one. -/
def nextToken : Lexing Bool := do
  skipBlank ((← get).cursor.rest.length + 1)
  dropStale
  unwind (← get).cursor.column
  let s ← get
  let c := s.cursor
  let ch := c.peek
  let flow := s.flow != 0
  let more (step : Lexing Unit) : Lexing Bool := do step; pure true
  if ch == endMark then
    closeAll
    emit .streamEnd
    pure false
  else if ch == '%' && c.column == 0 then more directiveLine
  else if c.column == 0 && c.atMarker then
    more (marker (if ch == '-' then .documentStart else .documentEnd))
  else if ch == '[' then more (openFlow .flowSequenceStart)
  else if ch == '\x7b' then more (openFlow .flowMappingStart)
  else if ch == ']' then more (closeFlow .flowSequenceEnd)
  else if ch == '\x7d' then more (closeFlow .flowMappingEnd)
  else if ch == ',' then more flowEntry
  else if ch == '-' && isSeparator (c.peekAt 1) then more blockEntry
  else if ch == '?' && (flow || isSeparator (c.peekAt 1)) then more explicitKey
  else if ch == ':' && (flow || isSeparator (c.peekAt 1)) then more value
  else if ch == '*' then
    more (candidateToken fun c => (anchorName c).map fun (name, rest) => (.alias name, rest))
  else if ch == '&' then
    more (candidateToken fun c => (anchorName c).map fun (name, rest) => (.anchor name, rest))
  else if ch == '!' then more (candidateToken tag)
  else if (ch == '|' || ch == '>') && !flow then more block
  else if ch == '"' || ch == Text.singleQuote then more (candidateToken quotedScalar)
  else if startsPlain flow c then more plain
  else throw ("found character " ++ Text.quoted (String.singleton ch) ++ " that cannot start any token")

/-- Reads all tokens. -/
def allTokens : Nat → Lexing Unit
  | 0 => pure ()
  | bound + 1 => do
    if ← nextToken then allTokens bound

/-- The start of a text; a mark of the byte order is passed. -/
def start (text : List Char) : Lexer :=
  let cursor := Cursor.start text
  ⟨if cursor.peek.toNat == 0xFEFF then cursor.next else cursor, 0, -1, [], true, [], #[]⟩

end Lexer

/-- The tokens of a text as far as it can be read, and the fault that ended the reading. -/
def tokensOf (text : List Char) : List Token × Option Fault :=
  match (Lexer.allTokens (text.length + 1)).run (Lexer.start text) with
  | .ok _ s => (s.tokens.toList, none)
  | .error fault s => (s.tokens.toList, some fault)

end Reconciler.Yaml
