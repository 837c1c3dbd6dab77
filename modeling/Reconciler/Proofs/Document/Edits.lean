import Reconciler.Document.Condition
import Reconciler.Document.Metadata
import Reconciler.Proofs.Computation
import Reconciler.Proofs.Value.Access

/-!
# What edits of a document touch

Every edit of a document is a chain of writes and removals at a few paths.  What lies apart from these
paths reads as before the edit, whether the edit succeeds or fails on its way.
-/

namespace Reconciler

open Relation (ReflTransGen)

namespace Value

/-- A tree after an attempt to write a value: a tree that has no place for it stays as it is. -/
def written (v : Value) (path : List String) (value : Value) : Value :=
  match v.write path value with
  | .ok w => w
  | .error _ => v

/-- A tree after a write or a removal at one of several paths. -/
inductive Touched (paths : List (List String)) : Value → Value → Prop where
  /-- A value was written at one of the paths. -/
  | written {path : List String} (own : path ∈ paths) {v value w : Value}
    (done : v.write path value = .ok w) : Touched paths v w
  /-- What one of the paths leads to was removed. -/
  | removed {path : List String} (own : path ∈ paths) (v : Value) : Touched paths v (v.remove path)

/-- A tree after writes and removals at several paths. -/
def Edited (paths : List (List String)) : Value → Value → Prop :=
  ReflTransGen (Touched paths)

variable {paths : List (List String)} {v w : Value}

theorem Touched.mono {more : List (List String)} (subset : paths ⊆ more)
    (touched : Touched paths v w) : Touched more v w := by
  cases touched with
  | written own done => exact .written (subset own) done
  | removed own => exact .removed (subset own) v

theorem Touched.follow_eq (touched : Touched paths v w) {other : List String}
    (apart : ∀ path ∈ paths, Apart path other) : w.follow other = v.follow other := by
  cases touched with
  | written own done => exact follow_write_of_apart done (apart _ own)
  | removed own => exact follow_remove_of_apart v (apart _ own)

theorem Touched.hasRoom (touched : Touched paths v w) (deep : ∀ path ∈ paths, 2 ≤ path.length)
    {key : String} (room : v.HasRoom key) : w.HasRoom key := by
  cases touched with
  | written own done =>
      rename_i path _
      match path, deep path own, done with
      | _ :: _ :: _, _, done => exact room.of_write done
  | removed own =>
      rename_i path
      match path, deep path own with
      | outer :: next :: rest, _ => exact room.of_remove outer next rest

namespace Edited

theorem mono {more : List (List String)} (subset : paths ⊆ more) (edited : Edited paths v w) :
    Edited more v w :=
  ReflTransGen.mono (fun _ _ touched => Touched.mono subset touched) v w edited

/-- What lies apart from the paths of an edit reads as before. -/
theorem follow_eq (edited : Edited paths v w) {other : List String}
    (apart : ∀ path ∈ paths, Apart path other) : w.follow other = v.follow other := by
  induction edited with
  | refl => rfl
  | tail _ touched ih => exact (touched.follow_eq apart).trans ih

theorem hasRoom (edited : Edited paths v w) (deep : ∀ path ∈ paths, 2 ≤ path.length)
    {key : String} (room : v.HasRoom key) : w.HasRoom key := by
  induction edited with
  | refl => exact room
  | tail _ touched ih => exact touched.hasRoom deep ih

/-- An attempt at a write is an edit. -/
theorem written {path : List String} (own : path ∈ paths) (value v : Value) :
    Edited paths v (v.written path value) := by
  unfold Value.written
  split
  next w done => exact .single (.written own done)
  next => exact .refl

end Edited

end Value

namespace Document

/-- The path of the finalizers. -/
def finalizersPath : List String :=
  ["metadata", "finalizers"]

/-- The path of the references to owners. -/
def ownersPath : List String :=
  ["metadata", "ownerReferences"]

/-- The path of the resource version. -/
def versionPath : List String :=
  ["metadata", "resourceVersion"]

/-- The path of the annotations. -/
def annotationsPath : List String :=
  ["metadata", "annotations"]

/-- The paths of the metadata that decisions must not depend on. -/
def transientPaths : List (List String) :=
  [["metadata", "annotations", lastAppliedAnnotation], ["metadata", "creationTimestamp"],
    ["metadata", "generation"], ["metadata", "uid"]]

/-- The path of the conditions. -/
def conditionsPath : List String :=
  ["status", "conditions"]

/-- The path of the reference to the object that a document waits for. -/
def failedRefPath : List String :=
  ["status", "failedObjectRef"]

/-- The paths of the observed state that the operator writes, where identifiers have some names. -/
def statusPaths (identifiers : List String) : List (List String) :=
  conditionsPath :: failedRefPath :: identifiers.map fun name => ["status", name]

/-- What is neither metadata nor observed state is apart from what the operator writes of the latter. -/
theorem statusPaths_apart {identifiers : List String} {name : String}
    (other : name ∉ ["metadata", "status"]) :
    ∀ path ∈ versionPath :: statusPaths identifiers, Apart path [name] := by
  have ne (key : String) (member : key ∈ ["metadata", "status"]) : key ≠ name :=
    fun same => other (same ▸ member)
  simp [statusPaths, versionPath, conditionsPath, failedRefPath, ne "metadata", ne "status"]

/-- An edit touches a document at several paths at most. -/
def Touches {α : Type} (paths : List (List String)) (change : Edit α) : Prop :=
  Proceeds Document.object (Value.Touched paths) change

theorem final_setField {path : List String} (stated : path ≠ []) (value : Value) (doc : Document) :
    final (setField path value) doc = { doc with object := doc.object.written path value } := by
  change final (ofExcept (doc.withField path value) >>= set) doc = _
  rw [final_bind, answer_ofExcept, final_ofExcept, withField, Value.written]
  rw [if_neg (by simpa using stated)]
  cases doc.object.write path value with
  | ok object => rfl
  | error fault => rcases fault with _ | ⟨_ | _, _⟩ <;> rfl

theorem answer_setField {path : List String} (stated : path ≠ []) {value written : Value}
    {doc : Document} (done : doc.object.write path value = .ok written) :
    answer (setField path value) doc = .ok () := by
  change answer (ofExcept (doc.withField path value) >>= set) doc = _
  rw [answer_bind, answer_ofExcept, withField, if_neg (by simpa using stated), done]
  rfl

/-- A field that could be written is read back. -/
theorem follow_setField {doc : Document} {path : List String} {value : Value} (stated : path ≠ [])
    (answered : answer (setField path value) doc = .ok ()) :
    (final (setField path value) doc).object.follow path = .ok value := by
  rw [final_setField stated]
  change (doc.object.written path value).follow path = _
  change answer (ofExcept (doc.withField path value) >>= set) doc = _ at answered
  obtain ⟨written, set, -⟩ := ok_of_answer_bind answered
  rw [answer_ofExcept, withField, if_neg (by simpa using stated)] at set
  unfold Value.written
  cases done : doc.object.write path value with
  | ok object => exact Value.follow_write done
  | error fault =>
      rw [done] at set
      rcases fault with _ | ⟨_ | _, _⟩ <;> contradiction

/-- The resource version that a tree states, unless it is empty. -/
def version? (object : Value) : Option String :=
  match object.follow versionPath with
  | .ok (.text version) => if version.isEmpty then none else some version
  | _ => none

/-- A tree after a resource version was taken over. -/
def stamped (object : Value) : Option String → Value
  | none => object
  | some version => object.written versionPath (.text version)

/-- A member of the metadata that is not null is what its path leads to. -/
theorem metadataMember_eq_iff (doc : Document) (name : String) {value : Value}
    (stated : value ≠ .null) :
    doc.metadataMember name = .ok value ↔ doc.object.follow ["metadata", name] = .ok value := by
  obtain ⟨object, uid⟩ := doc
  cases object with
  | scalar s => simp [metadataMember, Value.memberOr, Value.follow, bind, Except.bind]
  | list items => simp [metadataMember, Value.memberOr, Value.follow, bind, Except.bind]
  | map fields =>
      rw [Value.follow_map]
      change Value.member ((Fields.get? fields "metadata").getD (.map [])) name = _ ↔ _
      cases Fields.get? fields "metadata" with
      | none => simpa [Value.member] using stated.symm
      | some metadata =>
          cases metadata with
          | scalar s => simp [Value.member, Value.follow, Except.mapError]
          | list items => simp [Value.member, Value.follow, Except.mapError]
          | map entries =>
              simp only [Option.getD_some, Value.follow_map]
              cases found : Fields.get? entries name with
              | none => simpa [Value.member, found, Except.mapError] using stated.symm
              | some inner => simp [Value.member, found, Except.mapError]

/-- Members of the metadata can be read only where there is room for them. -/
theorem hasRoom_of_metadataMember {doc : Document} {name : String} {value : Value}
    (read : doc.metadataMember name = .ok value) : doc.object.HasRoom "metadata" := by
  obtain ⟨metadata, found, read⟩ := ok_of_bind read
  cases tree : doc.object with
  | scalar s => simp [tree, Value.memberOr] at found
  | list items => simp [tree, Value.memberOr] at found
  | map fields =>
      rw [tree] at found
      refine (Value.hasRoom_map_iff fields "metadata").mpr ?_
      cases here : Fields.get? fields "metadata" with
      | none => exact .inl rfl
      | some v =>
          obtain rfl : v = metadata := by simpa [Value.memberOr, here] using found
          cases v with
          | scalar s => simp [Value.member] at read
          | list items => simp [Value.member] at read
          | map entries => exact .inr ⟨entries, rfl⟩

/-- The version that is taken over is the one that the answered tree states. -/
theorem object_adoptVersion (updated doc : Document) :
    (final (adoptVersion updated) doc).object = stamped doc.object (version? updated.object) := by
  unfold adoptVersion
  rw [final_bind, answer_ofExcept, final_ofExcept]
  by_cases states : ∃ text, updated.metadataMember "resourceVersion" = .ok (.text text)
  · obtain ⟨text, stated⟩ := states
    have followed : updated.object.follow versionPath = .ok (.text text) :=
      (metadataMember_eq_iff updated "resourceVersion" (by simp)).mp stated
    rw [stated, version?, followed]
    dsimp only
    split
    · rfl
    · rw [final_setField (by simp)]
      rfl
  · have unstated : version? updated.object = none := by
      unfold version?
      split
      next text followed =>
        exact absurd ⟨text, (metadataMember_eq_iff updated _ (by simp)).mpr followed⟩ states
      next => rfl
    rw [unstated]
    cases answered : updated.metadataMember "resourceVersion" with
    | error failure => rfl
    | ok value =>
        dsimp only
        split
        next text => exact absurd ⟨text, answered⟩ states
        next => rfl

/-- A version can be taken over by a document with room for it, when the answered tree has metadata that
can be read. -/
theorem answer_adoptVersion {updated doc : Document} {value : Value}
    (told : updated.metadataMember "resourceVersion" = .ok value)
    (room : doc.object.HasRoom "metadata") : answer (adoptVersion updated) doc = .ok () := by
  unfold adoptVersion
  rw [told, answer_bind_ok (answer_ofExcept _ doc), final_ofExcept]
  split
  · split
    · rfl
    · obtain ⟨written, done⟩ := room.exists_write "resourceVersion" (.text _)
      exact answer_setField (by simp) done
  · rfl

section Touching

variable {α : Type} {paths : List (List String)}

theorem touches_setField {path : List String} (own : path ∈ paths) (value : Value) :
    Touches paths (setField path value) := by
  intro doc
  cases path with
  | nil => rfl
  | cons key rest =>
      rw [final_setField (List.cons_ne_nil key rest)]
      exact Value.Edited.written own value doc.object

theorem touches_removeField {path : List String} (own : path ∈ paths) :
    Touches paths (removeField path) := by
  have removed : Touches paths (modify (·.withoutField path)) :=
    fun doc => .single (.removed own doc.object)
  refine proceeds_bind keeps_get.proceeds fun doc => ?_
  split
  · exact proceeds_bind (keeps_throw _).proceeds fun _ => removed
  · exact removed

theorem touches_ensureFinalizer (own : finalizersPath ∈ paths) : Touches paths ensureFinalizer := by
  refine proceeds_bind keeps_get.proceeds fun doc => ?_
  refine proceeds_bind (keeps_ofExcept _).proceeds fun finalizers => ?_
  split
  · exact (keeps_pure _).proceeds
  · exact proceeds_bind (touches_setField own _) fun _ => (keeps_pure _).proceeds

theorem touches_removeFinalizer (own : finalizersPath ∈ paths) : Touches paths removeFinalizer := by
  refine proceeds_bind keeps_get.proceeds fun doc => ?_
  refine proceeds_bind (keeps_ofExcept _).proceeds fun finalizers => ?_
  split
  · exact proceeds_bind (touches_setField own _) fun _ => (keeps_pure _).proceeds
  · exact (keeps_pure _).proceeds

theorem touches_setCondition (own : conditionsPath ∈ paths) (update : ConditionUpdate)
    (now : String) : Touches paths (setCondition update now) := by
  refine proceeds_bind keeps_get.proceeds fun doc => ?_
  refine proceeds_bind (keeps_ofExcept _).proceeds fun conditions => ?_
  refine proceeds_bind (keeps_ofExcept _).proceeds fun updated => ?_
  exact touches_setField own _

theorem touches_writeIdentifiers {identifiers : List String}
    (own : ∀ name ∈ identifiers, ["status", name] ∈ paths) (body : Value) :
    Touches paths (writeIdentifiers identifiers body) := by
  unfold writeIdentifiers
  split
  · refine proceeds_bind (proceeds_forIn _ fun name member _ => ?_) fun _ => (keeps_pure _).proceeds
    split
    · exact (keeps_pure _).proceeds
    · exact (keeps_pure _).proceeds
    · refine proceeds_bind (keeps_ofExcept _).proceeds fun text => ?_
      exact proceeds_bind (touches_setField (own name member) _) fun _ => (keeps_pure _).proceeds
  · exact (keeps_pure _).proceeds

end Touching

/-! ## Transient metadata -/

/-- A tree without the metadata that decisions must not depend on. -/
def stripped (object : Value) : Value :=
  transientPaths.foldl Value.remove object

theorem object_withoutTransientMetadata (doc : Document) :
    doc.withoutTransientMetadata.object = stripped doc.object := rfl

theorem edited_removals {removals : List (List String)} {paths : List (List String)}
    (own : ∀ path ∈ removals, path ∈ paths) (v : Value) :
    Value.Edited paths v (removals.foldl Value.remove v) := by
  induction removals generalizing v with
  | nil => exact .refl
  | cons path rest ih =>
      have first : Value.Touched paths v (v.remove path) := .removed (own path (by simp)) v
      exact .head first (ih (fun other member => own other (by simp [member])) _)

theorem edited_stripped (object : Value) :
    Value.Edited transientPaths object (stripped object) :=
  edited_removals (fun _ member => member) object

/-- Removals leave at a path what was there, or nothing, when each is at that path or apart from it. -/
theorem follow_removals {removals : List (List String)} {path : List String}
    (told_apart : ∀ removal ∈ removals, removal = path ∨ Apart removal path) (v : Value) :
    (removals.foldl Value.remove v).follow path = v.follow path ∨
      (removals.foldl Value.remove v).follow path = .error .absent := by
  induction removals generalizing v with
  | nil => exact .inl rfl
  | cons removal rest ih =>
      have first : (v.remove removal).follow path = v.follow path ∨
          (v.remove removal).follow path = .error .absent := by
        rcases told_apart removal (by simp) with rfl | apart
        · exact Value.follow_remove_self v removal
        · exact .inl (Value.follow_remove_of_apart v apart)
      rw [List.foldl_cons]
      rcases ih (fun other member => told_apart other (by simp [member])) (v.remove removal) with
        kept | absent
      · rw [kept]
        exact first
      · exact .inr absent

/-- Each piece of transient metadata is gone from the stripped tree, or could not be removed. -/
theorem follow_stripped {path : List String} (transient : path ∈ transientPaths) (object : Value) :
    (stripped object).follow path = object.follow path ∨
      (stripped object).follow path = .error .absent := by
  have told_apart : ∀ p ∈ transientPaths, ∀ q ∈ transientPaths, q = p ∨ Apart q p := by
    decide
  exact follow_removals (told_apart path transient) object

/-- Of the annotations, only the last applied configuration is gone from the stripped tree. -/
theorem follow_stripped_annotations (object : Value) :
    (stripped object).follow annotationsPath =
      (object.follow annotationsPath).map (·.remove [ lastAppliedAnnotation]) := by
  rw [← Value.follow_remove_below]
  -- The annotations are stripped first; the other removals are apart from them.
  have others : ∀ path ∈ transientPaths.tail, Apart path annotationsPath := by decide
  exact (edited_removals (fun _ member => member) _).follow_eq others

end Document

end Reconciler
