import Reconciler.Proofs.Controller.Writes

/-!
# Letting a document go

A document that is deleted is let go by writing it without the operator's finalizer.  This is done after
the external resource was removed, and also when its removal failed in a way that is tolerated; any other
failure leaves the document as it is.
-/

namespace Reconciler

open Document

namespace Document

/-- The finalizers hold the operator's own, for the first time after some others. -/
def Holds (object : Value) (before after : List Value) : Prop :=
  object.follow finalizersPath = .ok (.list (before ++ .text finalizer :: after)) ∧
    .text finalizer ∉ before

variable {object : Value} {before after : List Value}

theorem withoutFinalizer_append (fresh : .text finalizer ∉ before) :
    withoutFinalizer (before ++ .text finalizer :: after) = before ++ after := by
  have others : ∀ item ∈ before, ¬item.equal (.text finalizer) = true := by
    intro item member same
    exact fresh ((Value.equal_text_iff item finalizer).mp same ▸ member)
  unfold withoutFinalizer
  rw [List.eraseP_append_right _ others, List.eraseP_cons_of_pos]
  exact (Value.equal_text_iff _ finalizer).mpr rfl

theorem holdsFinalizer_append (before after : List Value) :
    holdsFinalizer (before ++ .text finalizer :: after) = true := by
  simp [holdsFinalizer, (Value.equal_text_iff _ finalizer).mpr rfl]

theorem finalizers_of_follow {doc : Document} {items : List Value}
    (stated : doc.object.follow finalizersPath = .ok (.list items)) : doc.finalizers = .ok items := by
  have member : doc.metadataMember "finalizers" = .ok (.list items) :=
    (metadataMember_eq_iff doc "finalizers" (by simp)).mpr stated
  unfold finalizers metadataItems
  rw [member]
  cases items <;> rfl

/-- The document with other finalizers. -/
def withFinalizers (doc : Document) (items : List Value) : Document :=
  { doc with object := doc.object.written finalizersPath (.list items) }

variable {doc : Document}

theorem follow_withFinalizers (holds : Holds doc.object before after) (items : List Value) :
    (doc.withFinalizers items).object.follow finalizersPath = .ok (.list items) := by
  obtain ⟨written, done⟩ := Value.exists_write_of_follow holds.1 (.list items)
  rw [withFinalizers, Value.written, done]
  exact Value.follow_write done

/-- The operator's finalizer is found and removed. -/
theorem removeFinalizer_of_holds (holds : Holds doc.object before after) :
    answer removeFinalizer doc = .ok true ∧
      final removeFinalizer doc = doc.withFinalizers (before ++ after) := by
  obtain ⟨written, done⟩ := Value.exists_write_of_follow holds.1 (.list (before ++ after))
  have wrote : answer (setFinalizers (before ++ after)) doc = .ok () :=
    answer_setField (by simp) done
  have left : final (setFinalizers (before ++ after)) doc = doc.withFinalizers (before ++ after) :=
    final_setField (by simp) _ doc
  unfold removeFinalizer
  rw [answer_bind_ok (answer_get doc), final_bind_ok (answer_get doc), final_get,
    finalizers_of_follow holds.1, answer_bind_ok (answer_ofExcept _ doc),
    final_bind_ok (answer_ofExcept _ doc), final_ofExcept, if_pos (holdsFinalizer_append ..),
    withoutFinalizer_append holds.2, answer_bind_ok wrote, final_bind_ok wrote, left]
  exact ⟨rfl, rfl⟩

end Document

/-- The desk of a document with other finalizers. -/
def Desk.withFinalizers {ω : Type} (desk : Desk ω) (items : List Value) : Desk ω :=
  { desk with document := desk.document.withFinalizers items }

namespace Handling

variable {ω : Type} [World ω]

/-- A document that holds the operator's finalizer is let go by writing it without. -/
theorem releaseDocument_of_holds {desk : Desk ω} {before after : List Value}
    (holds : Holds desk.document.object before after) :
    answer releaseDocument desk = answer persist (desk.withFinalizers (before ++ after)) ∧
      final releaseDocument desk = final persist (desk.withFinalizers (before ++ after)) := by
  obtain ⟨removed, left⟩ := removeFinalizer_of_holds holds
  have changed : answer (Desk.edit (ω := ω) removeFinalizer) desk = .ok true :=
    (answer_within ..).trans removed
  have edited : final (Desk.edit (ω := ω) removeFinalizer) desk =
      desk.withFinalizers (before ++ after) := by
    rw [Desk.edit, final_within, left]
    rfl
  unfold releaseDocument
  rw [answer_bind_ok changed, final_bind_ok changed, edited]
  exact ⟨rfl, rfl⟩

/-- The outcome of a removal does not hold the document back. -/
def tolerates : Except Failure Unit → Bool
  | .ok () => true
  | .error failure => failure.isOperator || failure.isCluster

variable (handling : Handling) (removal : Reconcile ω Unit) (message : String) (desk : Desk ω)

/-- The desk once a removal was tried, and a failure of it logged. -/
def settledDesk : Desk ω :=
  match answer removal desk with
  | .ok () => final removal desk
  | .error failure => final (handling.logRelease message failure) (final removal desk)

omit [World ω] in
theorem outward_settledDesk :
    (handling.settledDesk removal message desk).outward = (final removal desk).outward := by
  unfold settledDesk
  split <;> rfl

/-- After a removal whose outcome is tolerated, the document is let go. -/
theorem removing_of_tolerated (tolerated : tolerates (answer removal desk) = true) :
    answer (handling.removing removal message) desk =
        answer releaseDocument (handling.settledDesk removal message desk) ∧
      final (handling.removing removal message) desk =
        final releaseDocument (handling.settledDesk removal message desk) := by
  unfold removing settledDesk
  rw [answer_bind_ok (answer_attempt removal desk), final_bind_ok (answer_attempt removal desk),
    final_attempt]
  cases removed : answer removal desk with
  | ok _ => exact ⟨rfl, rfl⟩
  | error failure =>
      have named : (failure.isOperator || failure.isCluster) = true := by
        rwa [removed] at tolerated
      dsimp only
      rw [if_pos named]
      exact ⟨rfl, rfl⟩

/-- After any other failure of a removal nothing is done. -/
theorem removing_of_failure {failure : Failure} (removed : answer removal desk = .error failure)
    (held_back : tolerates (.error failure) = false) :
    answer (handling.removing removal message) desk = .error failure ∧
      final (handling.removing removal message) desk = final removal desk := by
  unfold removing
  rw [answer_bind_ok (answer_attempt removal desk), final_bind_ok (answer_attempt removal desk),
    final_attempt, removed]
  dsimp only
  rw [if_neg (by simpa [tolerates] using held_back)]
  exact ⟨rfl, rfl⟩

end Handling

namespace Backing

section Deleting

variable {ω : Type} [World ω]

/-- The removal of the external resource. -/
def removal : Backing → Reconcile ω Unit
  | .rest setup => setup.removeResource
  | .chart setup => setup.removeRelease

/-- The message about a removal that failed. -/
def removalMessage : Backing → String
  | .rest _ => "Deleting external resource failed, releasing finalizer"
  | .chart _ => "Uninstalling release failed, releasing finalizer"

theorem delete_eq (backing : Backing) :
    (backing.handler (ω := ω)).delete =
      backing.handling.measured "delete"
        (backing.handling.removing backing.removal backing.removalMessage) := by
  cases backing <;> rfl

theorem trails_removal (backing : Backing) :
    Trails [ownersPath] (backing.removal (ω := Recorded ω)) := by
  cases backing with
  | rest setup => exact setup.trails_removeResource
  | chart setup => exact setup.keeps_removeRelease.proceeds

/-- The desk on which the external resource is removed, once the deletion is announced. -/
def removingDesk (backing : Backing) (desk : Desk ω) : Desk ω :=
  final (backing.handling.announce "delete") desk

/-- The desk once the removal of the external resource was tried, and a failure of it logged. -/
def removedDesk (backing : Backing) (desk : Desk ω) : Desk ω :=
  backing.handling.settledDesk backing.removal backing.removalMessage (backing.removingDesk desk)

/-- The deletion of the document at hand ends with writing it, with some finalizers. -/
def DeletesTo (backing : Backing) (desk : Desk ω) (finalizers : List Value) : Prop :=
  answer backing.handler.delete desk =
      answer Handling.persist ((backing.removedDesk desk).withFinalizers finalizers) ∧
    (final backing.handler.delete desk).outward =
      (final Handling.persist ((backing.removedDesk desk).withFinalizers finalizers)).outward

variable (backing : Backing) {desk : Desk (Recorded ω)} {before after : List Value}

/-- The removal of the external resource leaves the finalizers as they are. -/
theorem holds_removedDesk (holds : Holds desk.document.object before after) :
    Holds (backing.removedDesk desk).document.object before after := by
  obtain ⟨-, -, edited, -⟩ :=
    Trail.Run.edited (backing.trails_removal (backing.removingDesk desk))
  have announced : (backing.removingDesk desk).document.object = desk.document.object :=
    congrArg Trail.object (backing.handling.keeps_announce "delete" desk)
  have settled : (backing.removedDesk desk).document =
      (final backing.removal (backing.removingDesk desk)).document :=
    congrArg Prod.snd (backing.handling.outward_settledDesk ..)
  have same : (backing.removedDesk desk).document.object.follow finalizersPath =
      desk.document.object.follow finalizersPath := by
    rw [settled, ← announced]
    exact edited.follow_eq (by decide)
  exact ⟨same.trans holds.1, holds.2⟩

/-- A deletion that was announced ends with writing the document without the operator's finalizer, in the
order in which the others stand, when the outcome of the removal is tolerated; otherwise it fails as the
removal did, and nothing more is written. -/
theorem delete_releases {kind : String}
    (announced : answer (backing.handling.announce "delete") desk = .ok kind)
    (holds : Holds desk.document.object before after) :
    (Handling.tolerates (answer backing.removal (backing.removingDesk desk)) = true →
      backing.DeletesTo desk (before ++ after) ∧
        ∃ made, (final backing.handler.delete desk).session.writes =
            (backing.removedDesk desk).session.writes ++ made ∧
          (made = [] → ∃ failure, answer backing.handler.delete desk = .error failure) ∧
          ∀ write ∈ made, write.isWhole = true ∧
            write.body.follow finalizersPath = .ok (.list (before ++ after))) ∧
      ∀ failure, answer backing.removal (backing.removingDesk desk) = .error failure →
        Handling.tolerates (.error failure) = false →
          answer backing.handler.delete desk = .error failure ∧
            (final backing.handler.delete desk).outward =
              (backing.removedDesk desk).outward := by
  have answers := backing.handling.answer_measured
    (backing.handling.removing backing.removal backing.removalMessage) announced
  have leaves := backing.handling.outward_measured
    (backing.handling.removing backing.removal backing.removalMessage) announced
  rw [← delete_eq] at answers leaves
  constructor
  · intro tolerated
    have removed_holds := backing.holds_removedDesk holds
    obtain ⟨removing_answers, removing_leaves⟩ :=
      backing.handling.removing_of_tolerated backing.removal backing.removalMessage _ tolerated
    obtain ⟨released_answers, released_leaves⟩ := Handling.releaseDocument_of_holds removed_holds
    have delete_answers := answers.trans (removing_answers.trans released_answers)
    have delete_leaves := leaves.trans
      (congrArg Desk.outward (removing_leaves.trans released_leaves))
    refine ⟨⟨delete_answers, delete_leaves⟩, ?_⟩
    obtain ⟨made, wrote, unmade, bodies⟩ :=
      writes_persist ((backing.removedDesk desk).withFinalizers (before ++ after))
    refine ⟨made, ?_, ?_, fun write member => ⟨(bodies write member).1, ?_⟩⟩
    · exact (congrArg (fun outward => Recorded.writes outward.1) delete_leaves).trans wrote
    · rw [delete_answers]
      exact unmade
    · rw [(bodies write member).2]
      exact follow_withFinalizers removed_holds _
  · intro failure failed held_back
    obtain ⟨removing_answers, removing_leaves⟩ :=
      backing.handling.removing_of_failure backing.removal backing.removalMessage _ failed held_back
    have settled : (backing.removedDesk desk).outward =
        (final backing.removal (backing.removingDesk desk)).outward :=
      backing.handling.outward_settledDesk ..
    exact ⟨answers.trans removing_answers,
      leaves.trans ((congrArg Desk.outward removing_leaves).trans settled.symm)⟩

end Deleting

/-- Whatever becomes of the removal, a deletion ends with writing the document without the operator's
finalizer. -/
def AlwaysReleases {ω : Type} [World ω] (backing : Backing) (desk : Desk ω) : Prop :=
  ∀ before after, Holds desk.document.object before after →
    backing.DeletesTo desk (before ++ after)

/-- A world that serves a single kind, keeps what is written and refuses everything else. -/
structure Sparse where

instance : World Sparse where
  cluster
    | .replace _ _ _ body, world => (.ok body, world)
    | .discoverKind _ kind, world =>
      (if kind = "Repo" then .ok "repos" else .error .kindNotServed, world)
    | _, world => (.error Lone.refusal, world)
  wire _ world := (.error Lone.refusal, world)
  chart _ world := (.error Lone.refusal, world)
  file _ _ := .error .absent
  wallClock _ := "1970-01-01T00:00:00Z"
  steadyClock _ := .whole 0
  freshId world := ("0", world)

/-- A resource that names an owner and is to be deleted. -/
def ownedObject : Value :=
  .ofFields
    [("apiVersion", .text "sample.example.org/v1alpha1"), ("kind", .text "Repo"),
      ("metadata", .ofFields
        [("deletionTimestamp", .text "1970-01-01T00:00:00Z"),
          ("finalizers", .list [.text "first", .text finalizer, .text "last"]),
          ("name", .text "demo"), ("namespace", .text "default")]),
      ("spec", .ofFields [("organization", .text "acme")])]

/-- A descriptor with rules for owners. -/
def ownedDescriptor (owners : List OwnerRule) : Descriptor :=
  ⟨"Repo", [], [], [], owners⟩

/-- The rule for owners of a kind that the cluster does not serve. -/
def unservedOwner : OwnerRule :=
  ⟨"organization", ⟨"sample.example.org", "v1alpha1", "Organization"⟩⟩

/-- A backend with a fixed descriptor, whose API description cannot be read. -/
def ownedBacking : Backing :=
  .rest
    { handling := ⟨RestHandling.defaultKind, .standard false⟩
      definitions := .fixed "api.yaml" "descriptor.yaml" false
      timeout := .whole 20
      logsRequests := false }

/-- The desk on which the resource is deleted, under rules for its owners. -/
def ownedDesk (owners : List OwnerRule) : Desk (Recorded Sparse) :=
  ⟨⟨⟨⟨⟩, []⟩, .start .critical false, ⟨true, false⟩, .empty (.whole 0),
      some (ownedDescriptor owners)⟩, .ofObject ownedObject⟩

theorem holds_ownedDesk (owners : List OwnerRule) :
    Holds (ownedDesk owners).document.object [.text "first"] [.text "last"] :=
  ⟨rfl, by simp [finalizer]⟩

set_option maxRecDepth 4000 in
/-- Without owners, the description cannot be read and the document is let go all the same. -/
theorem delete_releases_unreadable :
    answer (ownedBacking.handling.announce "delete") (ownedDesk []) = .ok "Repo" ∧
      Holds (ownedDesk []).document.object [.text "first"] [.text "last"] ∧
      ownedBacking.DeletesTo (ownedDesk []) [.text "first", .text "last"] := by
  have holds := holds_ownedDesk []
  exact ⟨rfl, holds, ((ownedBacking.delete_releases rfl holds).1 rfl).1⟩

set_option maxRecDepth 4000 in
/-- A document whose owner is of a kind that the cluster does not serve is not let go. -/
theorem not_alwaysReleases : ¬ownedBacking.AlwaysReleases (ownedDesk [unservedOwner]) := by
  intro always
  have released : (.error .kindNotServed : Except Failure Unit) = .ok () :=
    (always _ _ (holds_ownedDesk [unservedOwner])).1
  contradiction

end Backing

end Reconciler
