import Reconciler.Description.Operation
import Reconciler.Yaml.Reader

/-!
# Reading API descriptions

A text or a sequence of bytes is an API description when it is a document that declares the third
version of the format and a map of paths, whose references all point to a node, and which names a
server.
-/

namespace Reconciler.Description

/-- The failure of loading a description. -/
def unloadable {α : Type} (fault : LoadFault) : Except Failure α :=
  .error (.load fault)

/-- The document declares the third version of the format. -/
def isThirdVersion (document : Fields) : Bool :=
  "3.".toList.isPrefixOf ((document.get? "openapi").getD (.text "")).plain.toList

/-- The description that a document is. -/
def ofDocument (location : String) (document : Value) : Except Failure Description :=
  match document with
  | .map fields =>
    if !isThirdVersion fields then unloadable (.otherFormat location)
    else if ((Fields.get? fields "paths").bind Value.fields?).isNone then
      unloadable (.noPaths location)
    else do
      let description : Description := ⟨document, location⟩
      description.validateReferences
      let _ ← description.serverUrl
      pure description
  | _ => unloadable (.notMapping location)

/-- The document that a reader found, or the failure of loading that reports what is wrong with it. -/
def documentRead (location : String) : Except Failure Value → Except Failure Value
  | .error (.malformedDocument remark) => unloadable (.malformed location remark)
  | outcome => outcome

/-- The description in a text. -/
def ofText (location text : String) : Except Failure Description := do
  ofDocument location (← documentRead location (Yaml.read text))

/-- The description in a sequence of bytes. -/
def ofBytes (location : String) (bytes : List UInt8) : Except Failure Description := do
  ofDocument location (← documentRead location (Yaml.readBytes bytes))

end Reconciler.Description
