import Reconciler.Yaml.Lexer
import Reconciler.Yaml.Tag

/-!
# Nodes of a document

The tree of a document with its tags, in which every alias is replaced by the node it names. A text
holds any number of documents one after another.
-/

namespace Reconciler.Yaml

/-- A node. -/
inductive Node where
  /-- A scalar. -/
  | scalar (tag : Tag) (text : String)
  /-- A list. -/
  | sequence (tag : Tag) (items : List Node)
  /-- A map. -/
  | mapping (tag : Tag) (entries : List (Node × Node))

instance : Inhabited Node := ⟨.scalar .null ""⟩

/-- The state between two tokens. -/
structure Outline where
  /-- The tokens that are left. -/
  tokens : List Token
  /-- The fault behind the last token. -/
  fault : Option Fault
  /-- The anchored nodes; a node that is being read has no value yet. -/
  anchors : List (String × Option Node)
  /-- The handles of tags. -/
  handles : List (String × String)

/-- Steps of the reading of nodes. -/
abbrev Outlining := EStateM Fault Outline

namespace Outline

/-- The handles that every document has. -/
def standardHandles : List (String × String) :=
  [("!", "!"), ("!!", Tag.standard)]

/-- The next token. -/
def peek : Outlining Token := do
  let s ← get
  match s.tokens with
  | token :: _ => pure token
  | [] => throw (s.fault.getD "unexpected end of the tokens")

/-- Passes the next token. -/
def pass : Outlining Unit :=
  modify fun s => { s with tokens := s.tokens.drop 1 }

/-- The next token is one of the given ones. -/
def isNext (tokens : List Token) : Outlining Bool := do
  pure (tokens.contains (← peek))

/-- A node without content. -/
def blank : Node :=
  .scalar (implicitTag "") ""

/-- The fault of a token in the place of another. -/
def misplaced {α : Type} (expected : String) : Outlining α := do
  throw ("expected " ++ expected ++ ", but found " ++ Text.quoted (← peek).name)

/-- The full form of a tag. -/
def fullTag (handle : Option String) (suffix : String) : Outlining String := do
  match handle with
  | none => pure suffix
  | some handle =>
    match (← get).handles.lookup handle with
    | some start => pure (start ++ suffix)
    | none => throw ("found undefined tag handle " ++ Text.quoted handle)

/-- The anchor and the tag before a node, in either order. -/
def properties : Outlining (Option String × Option String) := do
  match ← peek with
  | .anchor name =>
    pass
    match ← peek with
    | .tag handle suffix =>
      pass
      pure (some name, some (← fullTag handle suffix))
    | _ => pure (some name, none)
  | .tag handle suffix =>
    pass
    match ← peek with
    | .anchor name =>
      pass
      pure (some name, some (← fullTag handle suffix))
    | _ => pure (none, some (← fullTag handle suffix))
  | _ => pure (none, none)

/-- Opens an anchor; no other node may have it. -/
def openAnchor (name : Option String) : Outlining Unit := do
  match name with
  | none => pure ()
  | some name =>
    let s ← get
    if (s.anchors.lookup name).isSome then
      throw ("found duplicate anchor " ++ Text.quoted name)
    else set { s with anchors := (name, none) :: s.anchors }

/-- Gives an anchor its node. -/
def closeAnchor (name : Option String) (node : Node) : Outlining Node := do
  match name with
  | none => pure ()
  | some name =>
    modify fun s =>
      { s with anchors := (name, some node) :: s.anchors.filter fun entry => entry.1 != name }
  pure node

/-- The tag that is written, unless the choice is left to the kind of node. -/
def tagOr (written : Option String) (implicit : Tag) : Tag :=
  match written with
  | none | some "!" => implicit
  | some uri => .ofUri uri

/-- The node that an alias names. -/
def aliased (name : String) : Outlining Node := do
  match (← get).anchors.lookup name with
  | some (some node) => pure node
  | some none => throw "found unconstructable recursive node"
  | none => throw ("found undefined alias " ++ Text.quoted name)

mutual

/-- A node: in a block, collections may be shown by indentation, and items may stand at the indentation
of their key. -/
def node (inBlock indentless : Bool) : Nat → Outlining Node
  | 0 => throw "the document is nested too deep"
  | bound + 1 => do
    match ← peek with
    | .alias name =>
      pass
      aliased name
    | _ =>
      let (anchor, tag) ← properties
      openAnchor anchor
      let content : Node ←
        match ← peek with
        | .scalar text plain =>
          pass
          let implicit := if plain || tag == some "!" then implicitTag text else .text
          pure (.scalar (tagOr tag implicit) text)
        | .flowSequenceStart =>
          pass
          pure (.sequence (tagOr tag .sequence) (← flowItems true bound))
        | .flowMappingStart =>
          pass
          pure (.mapping (tagOr tag .mapping) (← flowEntries true bound))
        | .blockEntry =>
          if indentless then pure (.sequence (tagOr tag .sequence) (← indentlessItems bound))
          else bare anchor tag
        | .blockSequenceStart =>
          if inBlock then
            pass
            pure (.sequence (tagOr tag .sequence) (← blockItems bound))
          else bare anchor tag
        | .blockMappingStart =>
          if inBlock then
            pass
            pure (.mapping (tagOr tag .mapping) (← blockEntries bound))
          else bare anchor tag
        | _ => bare anchor tag
      closeAnchor anchor content

/-- A node of which only the anchor or the tag is written. -/
def bare (anchor tag : Option String) : Outlining Node := do
  if anchor.isSome || tag.isSome then pure (.scalar (tagOr tag (implicitTag "")) "")
  else misplaced "the node content"

/-- The items of a list that indentation shows. -/
def blockItems : Nat → Outlining (List Node)
  | 0 => throw "the document is nested too deep"
  | bound + 1 => do
    match ← peek with
    | .blockEntry =>
      pass
      let item ← if ← isNext [.blockEntry, .blockEnd] then pure blank else node true false bound
      pure (item :: (← blockItems bound))
    | .blockEnd =>
      pass
      pure []
    | _ => misplaced "<block end>"

/-- The items of a list at the indentation of its key. -/
def indentlessItems : Nat → Outlining (List Node)
  | 0 => throw "the document is nested too deep"
  | bound + 1 => do
    match ← peek with
    | .blockEntry =>
      pass
      let item ←
        if ← isNext [.blockEntry, .key, .value, .blockEnd] then pure blank else node true false bound
      pure (item :: (← indentlessItems bound))
    | _ => pure []

/-- The entries of a map that indentation shows. -/
def blockEntries : Nat → Outlining (List (Node × Node))
  | 0 => throw "the document is nested too deep"
  | bound + 1 => do
    match ← peek with
    | .key =>
      pass
      let key ← if ← isNext [.key, .value, .blockEnd] then pure blank else node true true bound
      let value ← blockValue bound
      pure ((key, value) :: (← blockEntries bound))
    | .value =>
      misplaced "<block end>"
    | .blockEnd =>
      pass
      pure []
    | _ => misplaced "<block end>"

/-- The value behind a key of a map that indentation shows. -/
def blockValue : Nat → Outlining Node
  | 0 => throw "the document is nested too deep"
  | bound + 1 => do
    match ← peek with
    | .value =>
      pass
      if ← isNext [.key, .value, .blockEnd] then pure blank else node true true bound
    | _ => pure blank

/-- The items of a list in brackets. -/
def flowItems (first : Bool) : Nat → Outlining (List Node)
  | 0 => throw "the document is nested too deep"
  | bound + 1 => do
    if ← isNext [.flowSequenceEnd] then
      pass
      pure []
    else
      if !first then
        if ← isNext [.flowEntry] then pass else misplaced "',' or ']'"
      match ← peek with
      | .key =>
        pass
        let key ←
          if ← isNext [.value, .flowEntry, .flowSequenceEnd] then pure blank
          else node false false bound
        let value ← flowValue [.flowEntry, .flowSequenceEnd] bound
        pure (.mapping .mapping [(key, value)] :: (← flowItems false bound))
      | .flowSequenceEnd =>
        pass
        pure []
      | _ =>
        let item ← node false false bound
        pure (item :: (← flowItems false bound))

/-- The value behind a key in brackets. -/
def flowValue (ends : List Token) : Nat → Outlining Node
  | 0 => throw "the document is nested too deep"
  | bound + 1 => do
    match ← peek with
    | .value =>
      pass
      if ← isNext ends then pure blank else node false false bound
    | _ => pure blank

/-- The entries of a map in braces. -/
def flowEntries (first : Bool) : Nat → Outlining (List (Node × Node))
  | 0 => throw "the document is nested too deep"
  | bound + 1 => do
    if ← isNext [.flowMappingEnd] then
      pass
      pure []
    else
      if !first then
        if ← isNext [.flowEntry] then pass else misplaced "',' or a closing brace"
      match ← peek with
      | .key =>
        pass
        let key ←
          if ← isNext [.value, .flowEntry, .flowMappingEnd] then pure blank
          else node false false bound
        let value ← flowValue [.flowEntry, .flowMappingEnd] bound
        pure ((key, value) :: (← flowEntries false bound))
      | .flowMappingEnd =>
        pass
        pure []
      | _ =>
        let key ← node false false bound
        pure ((key, blank) :: (← flowEntries false bound))

end

/-- The directives at the head of a document, which set the handles of tags. -/
def directives (version : Bool) (handles : List (String × String)) : Nat → Outlining Unit
  | 0 => pure ()
  | bound + 1 => do
    match ← peek with
    | .directive d =>
      pass
      match d with
      | .version major _ =>
        if version then throw "found duplicate YAML directive"
        else if major != 1 then throw "found incompatible YAML document"
        else directives true handles bound
      | .tag handle start =>
        if (handles.lookup handle).isSome then
          throw ("duplicate tag handle " ++ Text.quoted handle)
        else directives version ((handle, start) :: handles) bound
      | .reserved => directives version handles bound
    | _ => modify fun s => { s with handles := handles ++ standardHandles }

/-- Passes the marks at the end of documents. -/
def passEnds : Nat → Outlining Unit
  | 0 => pure ()
  | bound + 1 => do
    if ← isNext [.documentEnd] then
      pass
      passEnds bound

/-- The token cannot start the content of a document. -/
def endsContent : Token → Bool
  | .directive _ | .documentStart | .documentEnd | .streamEnd => true
  | _ => false

/-- The next document, if there is one; only the first may start without a mark. -/
def document (first : Bool) : Outlining (Option Node) := do
  let bound := 4 * (← get).tokens.length + 16
  modify fun s => { s with anchors := [] }
  let head ← peek
  let implicit := first && !(match head with
    | .directive _ | .documentStart | .streamEnd => true
    | _ => false)
  if implicit then
    modify fun s => { s with handles := standardHandles }
    let root ← node true false bound
    if ← isNext [.documentEnd] then pass
    pure (some root)
  else
    passEnds bound
    if ← isNext [.streamEnd] then pure none
    else
      directives false [] bound
      if ← isNext [.documentStart] then pass else misplaced "<document start>"
      let root ← if endsContent (← peek) then pure blank else node true false bound
      if ← isNext [.documentEnd] then pass
      pure (some root)

/-- The documents of the tokens, and the fault behind the last of them. -/
def documents (first : Bool) (s : Outline) : Nat → List Node × Option Fault
  | 0 => ([], none)
  | bound + 1 =>
    match (document first).run s with
    | .error fault _ => ([], some fault)
    | .ok none _ => ([], none)
    | .ok (some root) s =>
      let (more, fault) := documents false s bound
      (root :: more, fault)

end Outline

/-- The documents of a text, and the fault behind the last of them. -/
def nodesOf (text : List Char) : List Node × Option Fault :=
  let (tokens, fault) := tokensOf text
  Outline.documents true ⟨tokens, fault, [], []⟩ (tokens.length + 1)

end Reconciler.Yaml
