import Reconciler.Yaml.Cursor

/-!
# Tokens of a document

What a document is made of: indicators, the starts and ends of the collections that indentation shows,
names of anchors and tags, and scalars.
-/

namespace Reconciler.Yaml

/-- A directive at the head of a document. -/
inductive Directive where
  /-- The version of the format. -/
  | version (major minor : Nat)
  /-- A shorthand for tags. -/
  | tag (handle start : String)
  /-- A directive that means nothing. -/
  | reserved
deriving DecidableEq, Repr

/-- A token. -/
inductive Token where
  /-- A directive. -/
  | directive (d : Directive)
  /-- Three dashes. -/
  | documentStart
  /-- Three dots. -/
  | documentEnd
  /-- The end of the text. -/
  | streamEnd
  /-- The start of a list that indentation shows. -/
  | blockSequenceStart
  /-- The start of a map that indentation shows. -/
  | blockMappingStart
  /-- The end of a collection that indentation shows. -/
  | blockEnd
  /-- An opening bracket. -/
  | flowSequenceStart
  /-- A closing bracket. -/
  | flowSequenceEnd
  /-- An opening brace. -/
  | flowMappingStart
  /-- A closing brace. -/
  | flowMappingEnd
  /-- The dash of an item. -/
  | blockEntry
  /-- A comma. -/
  | flowEntry
  /-- The start of a key. -/
  | key
  /-- The colon before a value. -/
  | value
  /-- A reference to an anchored node. -/
  | alias (name : String)
  /-- A name for the node that follows. -/
  | anchor (name : String)
  /-- A tag for the node that follows: a handle and the rest of the tag. -/
  | tag (handle : Option String) (suffix : String)
  /-- A scalar, plain or quoted. -/
  | scalar (text : String) (plain : Bool)
deriving DecidableEq, Repr

namespace Token

/-- The name of a kind of token. -/
def name : Token → String
  | .directive _ => "<directive>"
  | .documentStart => "<document start>"
  | .documentEnd => "<document end>"
  | .streamEnd => "<stream end>"
  | .blockSequenceStart => "<block sequence start>"
  | .blockMappingStart => "<block mapping start>"
  | .blockEnd => "<block end>"
  | .flowSequenceStart => "["
  | .flowSequenceEnd => "]"
  | .flowMappingStart => "\x7b"
  | .flowMappingEnd => "\x7d"
  | .blockEntry => "-"
  | .flowEntry => ","
  | .key => "?"
  | .value => ":"
  | .alias _ => "<alias>"
  | .anchor _ => "<anchor>"
  | .tag .. => "<tag>"
  | .scalar .. => "<scalar>"

end Token

/-- What is wrong with a text that is no document. -/
abbrev Fault := String

end Reconciler.Yaml
