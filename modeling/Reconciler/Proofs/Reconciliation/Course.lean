import Reconciler.Proofs.Reconciliation.Actions

/-!
# The course of a document through a reconciliation

A live document is made ready, stripped of the metadata that decisions must not depend on, and handled.
What is written before it is stripped carries all of its metadata; what is written afterwards lacks what
was stripped.  Everything else that is not the operator's own is written back as it is in the live
document.
-/

namespace Reconciler

open Document

/-- What is done to a live tree, with what was written to the cluster before, when the tree was ready for
the handler, and after: the finalizer is settled, the transient metadata is stripped, and the handler
acts. -/
inductive Course (identifiers : List String) (live : Value) :
    List Write → List Write → List Write → Prop where
  /-- Nothing is done. -/
  | idle (writes : List Write) : Course identifiers live writes writes writes
  /-- The tree is made ready, and handled. -/
  | handled {before early after : List Write} {readied last : Value}
    (room : live.HasRoom "metadata")
    (prepared : Trail.Run [finalizersPath] ⟨live, before⟩ ⟨readied, early⟩)
    (handled : Trail.Run (handledPaths identifiers) ⟨stripped readied, early⟩ ⟨last, after⟩) :
    Course identifiers live before early after

/-- The paths at which the operator writes a document, where identifiers have some names. -/
def Document.ownPaths (identifiers : List String) : List (List String) :=
  versionPath :: handledPaths identifiers

/-- The names of the metadata that a written tree may lack. -/
def Document.transientNames : List String :=
  ["creationTimestamp", "generation", "uid"]

/-- What a written tree keeps of the live one. -/
structure Framed (identifiers : List String) (live body : Value) : Prop where
  /-- Apart from the metadata and the observed state, it is the same at every depth. -/
  content (name : String) (other : name ∉ ["metadata", "status"]) :
    body.follow [name] = live.follow [name]
  /-- Its metadata is the same but for the finalizers, the owners, the version, the annotations and what
  is transient. -/
  metadata (name : String)
    (other : name ∉
      ["finalizers", "ownerReferences", "resourceVersion", "annotations"] ++ transientNames) :
    body.follow ["metadata", name] = live.follow ["metadata", name]
  /-- What is transient is the same, or gone. -/
  transient (name : String) (transient : name ∈ transientNames) :
    body.follow ["metadata", name] = live.follow ["metadata", name] ∨
      body.follow ["metadata", name] = .error .absent
  /-- The annotations are the same, or lack the last applied configuration. -/
  annotations :
    body.follow annotationsPath = live.follow annotationsPath ∨
      body.follow annotationsPath =
        (live.follow annotationsPath).map (·.remove [ lastAppliedAnnotation])
  /-- Its observed state is the same but for the conditions, the object that is waited for, and the
  identifiers. -/
  status (name : String) (other : name ∉ ["conditions", "failedObjectRef"] ++ identifiers) :
    body.follow ["status", name] = live.follow ["status", name]

section Frame

variable {identifiers : List String} {live body : Value}

theorem ownPaths_apart_transient :
    ∀ own ∈ ownPaths identifiers, ∀ transient ∈ annotationsPath :: transientPaths,
      Apart own transient := by
  have fixed : ∀ own ∈ [versionPath, finalizersPath, ownersPath, conditionsPath, failedRefPath],
      ∀ transient ∈ annotationsPath :: transientPaths, Apart own transient := by
    decide
  have named (name : String) :
      ∀ transient ∈ annotationsPath :: transientPaths, Apart ["status", name] transient := by
    simp [annotationsPath, transientPaths]
  intro own member
  simp only [ownPaths, handledPaths, statusPaths, List.mem_cons, List.mem_map] at member
  rcases member with rfl | rfl | rfl | rfl | rfl | ⟨name, -, rfl⟩
  · exact fixed _ (by simp)
  · exact fixed _ (by simp)
  · exact fixed _ (by simp)
  · exact fixed _ (by simp)
  · exact fixed _ (by simp)
  · exact named name

/-- A tree is framed by the live one when it reads the same apart from the operator's own paths and the
transient metadata. -/
theorem framed_of_kept
    (kept : ∀ path, (∀ own ∈ ownPaths identifiers, Apart own path) →
      (∀ transient ∈ transientPaths, Apart transient path) → body.follow path = live.follow path)
    (transient : ∀ path ∈ transientPaths,
      body.follow path = live.follow path ∨ body.follow path = .error .absent)
    (annotations : body.follow annotationsPath = live.follow annotationsPath ∨
      body.follow annotationsPath =
        (live.follow annotationsPath).map (·.remove [ lastAppliedAnnotation])) :
    Framed identifiers live body where
  content name other := by
    have ne (key : String) (member : key ∈ ["metadata", "status"]) : key ≠ name :=
      fun same => other (same ▸ member)
    have metadata := ne "metadata" (by decide)
    have status := ne "status" (by decide)
    refine kept [name] ?_ ?_
    · simp [ownPaths, handledPaths, statusPaths, versionPath, finalizersPath, ownersPath,
        conditionsPath, failedRefPath, metadata, status]
    · simp [transientPaths, metadata]
  metadata name other := by
    have ne (key : String)
        (member : key ∈ ["finalizers", "ownerReferences", "resourceVersion", "annotations"] ++
          transientNames) : key ≠ name :=
      fun same => other (same ▸ member)
    refine kept ["metadata", name] ?_ ?_
    · simp [ownPaths, handledPaths, statusPaths, versionPath, finalizersPath, ownersPath,
        conditionsPath, failedRefPath, ne "resourceVersion" (by decide),
        ne "finalizers" (by decide), ne "ownerReferences" (by decide)]
    · simp [transientPaths, ne "annotations" (by decide), ne "creationTimestamp" (by decide),
        ne "generation" (by decide), ne "uid" (by decide)]
  transient name member := by
    have listed : ∀ name ∈ transientNames, ["metadata", name] ∈ transientPaths := by decide
    exact transient ["metadata", name] (listed name member)
  annotations := annotations
  status name other := by
    have ne (key : String) (member : key ∈ ["conditions", "failedObjectRef"] ++ identifiers) :
        key ≠ name :=
      fun same => other (same ▸ member)
    have named : ∀ key ∈ identifiers, key ≠ name := fun key member => ne key (by simp [member])
    refine kept ["status", name] ?_ ?_
    · simpa [ownPaths, handledPaths, statusPaths, versionPath, finalizersPath, ownersPath,
        conditionsPath, failedRefPath, ne "conditions" (by simp), ne "failedObjectRef" (by simp)]
        using named
    · simp [transientPaths]

/-- A tree that is edited at the operator's own paths is framed by the live one. -/
theorem framed_of_edited (edited : Value.Edited (ownPaths identifiers) live body) :
    Framed identifiers live body := by
  have apart {path : List String} (member : path ∈ annotationsPath :: transientPaths) :
      body.follow path = live.follow path :=
    edited.follow_eq fun own member_own => ownPaths_apart_transient own member_own path member
  refine framed_of_kept (fun path own _ => edited.follow_eq own) (fun path member => .inl ?_) (.inl ?_)
  · exact apart (by simp [member])
  · exact apart (by simp)

/-- A tree that is edited, stripped of transient metadata and edited again is framed by the live one. -/
theorem framed_of_stripped {readied : Value}
    (before : Value.Edited (ownPaths identifiers) live readied)
    (after : Value.Edited (ownPaths identifiers) (stripped readied) body) :
    Framed identifiers live body := by
  have apart {path : List String} (member : path ∈ annotationsPath :: transientPaths) :
      ∀ own ∈ ownPaths identifiers, Apart own path :=
    fun own member_own => ownPaths_apart_transient own member_own path member
  refine framed_of_kept (fun path own transient => ?_) (fun path member => ?_) (.inr ?_)
  · calc body.follow path
      _ = (stripped readied).follow path := after.follow_eq own
      _ = readied.follow path := (edited_stripped readied).follow_eq transient
      _ = live.follow path := before.follow_eq own
  · have own := apart (List.mem_cons_of_mem _ member)
    rw [after.follow_eq own, ← before.follow_eq own]
    exact follow_stripped member readied
  · have own := apart List.mem_cons_self
    rw [after.follow_eq own, follow_stripped_annotations, before.follow_eq own]

end Frame

theorem handledPaths_apart_version {identifiers : List String} :
    ∀ path ∈ handledPaths identifiers, Apart path versionPath := by
  simp [handledPaths, statusPaths, finalizersPath, ownersPath, conditionsPath, failedRefPath,
    versionPath]

theorem handledPaths_deep {identifiers : List String} :
    ∀ path ∈ handledPaths identifiers, 2 ≤ path.length := by
  simp [handledPaths, statusPaths, finalizersPath, ownersPath, conditionsPath, failedRefPath]

namespace Course

variable {identifiers : List String} {live : Value} {before early after : List Write}

/-- What is written before the handler acts is edited from the live tree, and what is written afterwards
from the stripped one. -/
theorem edited (course : Course identifiers live before early after) :
    ∃ prepared handled readied, early = before ++ prepared ∧ after = early ++ handled ∧
      Value.Edited (ownPaths identifiers) live readied ∧
      (∀ write ∈ prepared, Value.Edited (ownPaths identifiers) live write.body) ∧
      ∀ write ∈ handled, Value.Edited (ownPaths identifiers) (stripped readied) write.body := by
  cases course with
  | idle => exact ⟨[], [], live, by simp, by simp, .refl, by simp, by simp⟩
  | @handled _ _ readied _ room prepared handled =>
      have own : [versionPath, finalizersPath] ⊆ ownPaths identifiers := by
        simp [ownPaths, finalizersPath_handled]
      obtain ⟨first, grown, readied_edited, first_bodies⟩ := prepared.edited
      obtain ⟨second, regrown, -, second_bodies⟩ := handled.edited
      exact ⟨first, second, readied, grown, regrown, readied_edited.mono own,
        fun write member => (first_bodies write member).mono own, second_bodies⟩

/-- Everything that is written is framed by the live tree. -/
theorem framed (course : Course identifiers live before early after) :
    ∃ made, after = before ++ made ∧ ∀ write ∈ made, Framed identifiers live write.body := by
  obtain ⟨prepared, handled, readied, rfl, rfl, edited, prepared_bodies, handled_bodies⟩ :=
    course.edited
  refine ⟨prepared ++ handled, List.append_assoc .., fun write member => ?_⟩
  rcases List.mem_append.mp member with first | second
  · exact framed_of_edited (prepared_bodies write first)
  · exact framed_of_stripped edited (handled_bodies write second)

/-- The annotations are written as they are while the document is made ready, and without the last
applied configuration afterwards. -/
theorem annotations (course : Course identifiers live before early after) :
    ∃ prepared handled, early = before ++ prepared ∧ after = early ++ handled ∧
      (∀ write ∈ prepared, write.body.follow annotationsPath = live.follow annotationsPath) ∧
      ∀ write ∈ handled, write.body.follow annotationsPath =
        (live.follow annotationsPath).map (·.remove [ lastAppliedAnnotation]) := by
  obtain ⟨prepared, handled, readied, grown, regrown, edited, prepared_bodies, handled_bodies⟩ :=
    course.edited
  have apart : ∀ own ∈ ownPaths identifiers, Apart own annotationsPath := fun own member =>
    ownPaths_apart_transient own member annotationsPath (by simp)
  refine ⟨prepared, handled, grown, regrown, fun write member => ?_, fun write member => ?_⟩
  · exact (prepared_bodies write member).follow_eq apart
  · rw [(handled_bodies write member).follow_eq apart, follow_stripped_annotations,
      edited.follow_eq apart]

/-- Every write carries the version that the cluster answered last, and that of the live tree before it
answered one. -/
theorem versions (course : Course identifiers live before early after) :
    ∃ made, after = before ++ made ∧ Trail.Carries (live.follow versionPath) made := by
  cases course with
  | idle => exact ⟨[], by simp, Trail.carries_nil _⟩
  | @handled _ _ readied _ room prepared handled =>
      obtain ⟨first, grown, readied_room, readied_version, first_carries⟩ :=
        prepared.versions (by decide) (by decide) room
      have stripped_version : (stripped readied).follow versionPath = readied.follow versionPath :=
        (edited_stripped readied).follow_eq (by decide)
      have stripped_room : (stripped readied).HasRoom "metadata" :=
        (edited_stripped readied).hasRoom (by decide) readied_room
      obtain ⟨second, regrown, -, -, second_carries⟩ :=
        handled.versions handledPaths_apart_version handledPaths_deep stripped_room
      refine ⟨first ++ second, ?_, first_carries.append ?_⟩
      · rw [← List.append_assoc]
        exact regrown.trans (congrArg (· ++ second) grown)
      · rw [← readied_version]
        exact stripped_version ▸ second_carries

end Course

end Reconciler
