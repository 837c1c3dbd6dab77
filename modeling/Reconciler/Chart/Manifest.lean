import Reconciler.Backend.Descriptor
import Reconciler.Yaml.Reader

/-!
# Manifests

A rendered chart is a sequence of documents. Each document with a kind and a version refers to an
object of the release, unless an annotation marks it as a hook.
-/

namespace Reconciler.Manifest

/-- The annotation that marks a hook. -/
def hookAnnotation : String :=
  "helm.sh/hook"

/-- The annotations mention the annotation of hooks. -/
def marksHook (annotations : Value) : Except Failure Bool :=
  match annotations with
  | .map fields => .ok ((Fields.get? fields hookAnnotation).isSome)
  | .list items => .ok (items.any (·.equal (.text hookAnnotation)))
  | .text s => .ok (Text.contains s hookAnnotation)
  | v => .error (.shape (.notContainer v.kind))

/-- The reference to the object that a document describes, none for a hook or for a document that
describes no object. -/
def ref? (document : Value) : Except Failure (Option ObjectRef) := do
  match document with
  | .map fields =>
    let kind := (Fields.get? fields "kind").getD .null
    let version := (Fields.get? fields "apiVersion").getD .null
    if kind.isBlank || version.isBlank then pure none
    else
      let metadata := ((Fields.get? fields "metadata").getD .null).orElse (.map [])
      let annotations ← metadata.member "annotations"
      if ← marksHook (annotations.orElse (.map [])) then pure none
      else
        let parts := metadata.fields?.getD []
        pure (some ⟨version.plain, kind.plain, textUnder parts "name", textUnder parts "namespace"⟩)
  | _ => pure none

/-- The references to the objects that several documents describe, and then the failure behind
them. -/
def refsOf (documents : List Value) (failure : Option Failure) : Except Failure (List ObjectRef) := do
  let found ← documents.mapM ref?
  match failure with
  | some failure => throw failure
  | none => pure (found.filterMap id)

/-- The references to the objects of a manifest. -/
def refs (manifest : String) : Except Failure (List ObjectRef) :=
  let (documents, failure) := Yaml.documents manifest
  refsOf documents failure

/-- The references to the objects of a manifest given as bytes. -/
def refsOfBytes (manifest : List UInt8) : Except Failure (List ObjectRef) := do
  refs (← Yaml.textOfBytes manifest)

end Reconciler.Manifest
