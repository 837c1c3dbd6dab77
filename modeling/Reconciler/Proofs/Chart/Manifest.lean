import Reconciler.Chart.Manifest

/-!
# The objects of a manifest

Where the metadata of the documents of a manifest are maps, reading the references does not fail, and gives
one for each document with a kind and a version that is not marked as a hook.
-/

namespace Reconciler.Manifest

/-- The entries of the map under a name, none when no map is there. -/
def mapUnder (fields : Fields) (name : String) : Fields :=
  match fields.get? name with
  | some (.map inner) => inner
  | _ => []

/-- What is under a name is a map, unless it is empty or absent. -/
def holdsMap (fields : Fields) (name : String) : Bool :=
  match fields.get? name with
  | none => true
  | some value => value.isBlank || value.fields?.isSome

/-- A document states a kind and a version. -/
def isObject (fields : Fields) : Bool :=
  !(((fields.get? "kind").getD .null).isBlank || ((fields.get? "apiVersion").getD .null).isBlank)

/-- An annotation marks a document as a hook. -/
def isHook (fields : Fields) : Bool :=
  ((mapUnder (mapUnder fields "metadata") "annotations").get? hookAnnotation).isSome

/-- The reference that a document states. -/
def refOf (fields : Fields) : ObjectRef :=
  let metadata := mapUnder fields "metadata"
  ⟨textUnder fields "apiVersion", textUnder fields "kind", textUnder metadata "name",
    textUnder metadata "namespace"⟩

/-- The object of the release that a document describes, if it does. -/
def described? : Value → Option ObjectRef
  | .map fields => if isObject fields && !isHook fields then some (refOf fields) else none
  | _ => none

/-- The metadata of a document that describes an object are maps. -/
def isProper : Value → Bool
  | .map fields =>
    !isObject fields ||
      holdsMap fields "metadata" && holdsMap (mapUnder fields "metadata") "annotations"
  | _ => true

/-- The documents of a manifest, when it holds documents and nothing else. -/
def documents? (manifest : List UInt8) : Option (List Value) :=
  match Yaml.textOfBytes manifest with
  | .error _ => none
  | .ok text =>
    match Yaml.documents text with
    | (documents, none) => some documents
    | (_, some _) => none

theorem orElse_of_holdsMap {fields : Fields} {name : String} (held : holdsMap fields name = true) :
    ((Fields.get? fields name).getD .null).orElse (.map []) = .map (mapUnder fields name) := by
  unfold holdsMap at held
  unfold mapUnder
  cases found : Fields.get? fields name with
  | none => rfl
  | some value =>
      rw [found] at held
      cases value with
      | map inner => cases inner <;> rfl
      | scalar s => simp_all [Value.orElse, Value.isBlank, Value.fields?]
      | list items => simp_all [Value.orElse, Value.isBlank, Value.fields?]

theorem textUnder_of_stated {fields : Fields} {name : String}
    (stated : ((Fields.get? fields name).getD .null).isBlank = false) :
    ((Fields.get? fields name).getD .null).plain = textUnder fields name := by
  unfold textUnder
  cases found : Fields.get? fields name with
  | none => simp [found, Value.isBlank, Scalar.isBlank] at stated
  | some value => rfl

/-- The reference of a document can be read when its metadata are maps. -/
theorem ref?_eq {document : Value} (proper : isProper document = true) :
    ref? document = .ok (described? document) := by
  cases document with
  | scalar s => rfl
  | list items => rfl
  | map fields =>
      unfold ref? described?
      dsimp only
      cases stated : isObject fields with
      | false =>
          have blank : (((Fields.get? fields "kind").getD .null).isBlank ||
              ((Fields.get? fields "apiVersion").getD .null).isBlank) = true := by
            simpa only [isObject, Bool.not_eq_false'] using stated
          rw [if_pos blank]
          rfl
      | true =>
          have stated_both : (((Fields.get? fields "kind").getD .null).isBlank ||
              ((Fields.get? fields "apiVersion").getD .null).isBlank) = false := by
            simpa only [isObject, Bool.not_eq_true'] using stated
          obtain ⟨kind, version⟩ := Bool.or_eq_false_iff.mp stated_both
          obtain ⟨outer, inner⟩ : holdsMap fields "metadata" = true ∧
              holdsMap (mapUnder fields "metadata") "annotations" = true := by
            simpa [isProper, stated] using proper
          have member : (Value.map (mapUnder fields "metadata")).member "annotations" =
              .ok ((Fields.get? (mapUnder fields "metadata") "annotations").getD .null) := rfl
          rw [stated_both, orElse_of_holdsMap outer, member, textUnder_of_stated kind,
            textUnder_of_stated version]
          change (marksHook (((Fields.get? (mapUnder fields "metadata") "annotations").getD
            .null).orElse (.map [])) >>= _) = _
          rw [orElse_of_holdsMap inner]
          change (if isHook fields = true then _ else _) = _
          cases isHook fields <;> rfl

/-- So can the references of several documents, in their order. -/
theorem refsOf_eq {documents : List Value} (proper : documents.all isProper = true) :
    refsOf documents none = .ok (documents.filterMap described?) := by
  have each : documents.mapM ref? = .ok (documents.map described?) := by
    induction documents with
    | nil => rfl
    | cons document rest ih =>
        rw [List.all_cons, Bool.and_eq_true] at proper
        rw [List.mapM_cons, ref?_eq proper.1, ih proper.2]
        rfl
  unfold refsOf
  rw [each]
  change Except.ok ((documents.map described?).filterMap id) = _
  rw [List.filterMap_map]
  rfl

theorem refsOfBytes_eq {manifest : List UInt8} {documents : List Value}
    (held : documents? manifest = some documents) (proper : documents.all isProper = true) :
    refsOfBytes manifest = .ok (documents.filterMap described?) := by
  unfold documents? at held
  unfold refsOfBytes refs
  split at held
  next => contradiction
  next text decoded =>
    rw [decoded]
    change refsOf (Yaml.documents text).1 (Yaml.documents text).2 = _
    split at held
    next found parsed =>
      obtain rfl := Option.some.inj held
      rw [parsed, refsOf_eq proper]
    next => contradiction

end Reconciler.Manifest
