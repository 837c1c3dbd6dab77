import Reconciler.Proofs.Controller.Noted
import Reconciler.Proofs.Reconciliation.Course

/-!
# What a controller writes to the cluster

Everything that a controller writes while it dispatches an event, or while it marks a resource as
failed, is the live resource with edits at the operator's own paths.  The controller may be backed by a
REST backend or by charts.
-/

namespace Reconciler

open Document

/-- What backs the resources of a controller. -/
inductive Backing where
  /-- A REST backend. -/
  | rest (setup : RestHandling)
  /-- Charts. -/
  | chart (setup : ChartHandling)

/-- The name of the action that an event type asks for. -/
def EventType.action : EventType → String
  | .observe => "observe"
  | .create => "create"
  | .update => "update"
  | .delete => "delete"

namespace Backing

variable {ω : Type} [World ω]

/-- What the handler of a backing shares with other handlers. -/
def handling : Backing → Handling
  | .rest setup => setup.handling
  | .chart setup => setup.handling

/-- The handler of a backing. -/
def handler : Backing → Handler ω
  | .rest setup => setup.handler
  | .chart setup => setup.handler

/-- The names of the identifiers that a backing gives the document at hand. -/
def identifiersAt (desk : Desk ω) : Backing → List String
  | .rest setup => setup.identifiersAt desk
  | .chart _ => []

/-- The names of the identifiers that an action works with, which begins once it is announced. -/
def identifiersIn (backing : Backing) (type : EventType) (desk : Desk ω) : List String :=
  backing.identifiersAt (final (backing.handling.announce type.action) desk)

variable (backing : Backing) (desk : Desk (Recorded ω))

theorem run_observe :
    Trail.Run (handledPaths (backing.identifiersIn .observe desk)) desk.trail
      (final backing.handler.observe desk).trail := by
  cases backing with
  | rest setup => exact setup.handling.run_measured _ (setup.run_observeResource _)
  | chart setup => exact setup.handling.run_measured _ (setup.trails_observeRelease _)

theorem run_create :
    Trail.Run (handledPaths (backing.identifiersIn .create desk)) desk.trail
      (final backing.handler.create desk).trail := by
  cases backing with
  | rest setup => exact setup.handling.run_measured _ (setup.run_createResource _)
  | chart setup =>
      exact setup.trails_install _ (fun doc => Recorded.detached_writes.keeps_emit _ doc _ _ _) _

theorem run_update :
    Trail.Run (handledPaths (backing.identifiersIn .update desk)) desk.trail
      (final backing.handler.update desk).trail := by
  cases backing with
  | rest setup => exact setup.handling.run_measured _ (setup.run_updateResource _)
  | chart setup =>
      exact setup.trails_install _ (fun doc => Recorded.detached_writes.keeps_emit _ doc _ _ _) _

theorem run_delete :
    Trail.Run (handledPaths (backing.identifiersIn .delete desk)) desk.trail
      (final backing.handler.delete desk).trail := by
  cases backing with
  | rest setup => exact setup.handling.run_measured _ (setup.trails_deleteResource _)
  | chart setup => exact setup.handling.run_measured _ (setup.trails_deleteRelease _)

end Backing

namespace Controller

variable {ω : Type} [World ω]

/-- The controller with the handler of a backing. -/
def backedBy (controller : Controller ω) (backing : Backing) : Controller ω :=
  { controller with handler := backing.handler }

section Preparing

/-- A document at hand that is not to be deleted gets the finalizer, and is written if it did not hold
it. -/
def holdFinalizer (going : Bool) : Reconcile ω Unit := do
  if !going then
    if ← Desk.edit Document.ensureFinalizer then Handling.persist

theorem prepare_eq (type : EventType) :
    prepare (ω := ω) type = (do
      let going ← isGoing
      holdFinalizer going
      Desk.edit (modify Document.withoutTransientMetadata)
      pure (if going then .delete else type)) := by
  refine bind_congr fun going => ?_
  cases going with
  | true => rfl
  | false =>
      simp only [holdFinalizer, Bool.not_false, if_true, bind_assoc]
      refine bind_congr fun changed => ?_
      cases changed <;> rfl

theorem trails_holdFinalizer (going : Bool) :
    Trails [finalizersPath] (holdFinalizer (ω := Recorded ω) going) := by
  unfold holdFinalizer
  split
  · refine proceeds_bind (trails_edit (touches_ensureFinalizer (by simp))) fun changed => ?_
    split
    · exact trails_persist
    · exact (keeps_pure _).proceeds
  · exact (keeps_pure _).proceeds

omit [World ω] in
/-- Whether a document is to be deleted can be told only when there is room for its metadata. -/
theorem room_of_isGoing {desk : Desk ω} {going : Bool} (answered : answer isGoing desk = .ok going) :
    desk.document.object.HasRoom "metadata" := by
  obtain ⟨doc, at_hand, answered⟩ := ok_of_answer_bind answered
  obtain rfl : desk.document = doc := Except.ok.inj at_hand
  obtain ⟨stamp, told, -⟩ := ok_of_answer_bind answered
  rw [answer_ofExcept] at told
  exact hasRoom_of_metadataMember told

/-- A document that is made ready is edited at its finalizers, and stripped. -/
theorem course_prepare (type : EventType) (desk : Desk (Recorded ω)) :
    (∃ failure, answer (prepare type) desk = .error failure) ∧
        (final (prepare type) desk).session.writes = desk.session.writes ∨
      desk.document.object.HasRoom "metadata" ∧ ∃ readied,
        Trail.Run [finalizersPath] desk.trail
          ⟨readied, (final (prepare type) desk).session.writes⟩ ∧
        ∀ left, answer (prepare type) desk = .ok left →
          (final (prepare type) desk).document.object = stripped readied := by
  rw [prepare_eq]
  have looked : (final isGoing desk).trail = desk.trail :=
    keeps_bind keeps_current (fun _ => keeps_bind (keeps_ofExcept _) fun _ => keeps_pure _) desk
  cases told : answer isGoing desk with
  -- Metadata that cannot be read: nothing is written, and the handler is not reached.
  | error failure =>
      refine .inl ⟨⟨failure, ?_⟩, ?_⟩
      · rw [answer_bind, told]
      · rw [final_bind, told]
        exact congrArg Trail.writes looked
  | ok going =>
      refine .inr ⟨room_of_isGoing told, ?_⟩
      have held : Trail.Run [finalizersPath] desk.trail
          (final (holdFinalizer going) (final isGoing desk)).trail :=
        looked ▸ trails_holdFinalizer going (final isGoing desk)
      refine ⟨(final (holdFinalizer going) (final isGoing desk)).document.object, ?_, fun left => ?_⟩
      · rw [final_bind_ok told, final_bind]
        cases answer (holdFinalizer going) (final isGoing desk) <;> exact held
      · rw [final_bind_ok told, answer_bind_ok told, final_bind, answer_bind]
        cases answer (holdFinalizer going) (final isGoing desk) with
        | error failure => simp
        | ok _ => exact fun _ => object_withoutTransientMetadata _

end Preparing

section Dispatching

variable (controller : Controller (Recorded ω)) (backing : Backing)

theorem run_act (left : EventType) (desk : Desk (Recorded ω)) :
    Trail.Run (handledPaths (backing.identifiersIn left desk)) desk.trail
      (final ((controller.backedBy backing).act left) desk).trail := by
  cases left with
  | observe =>
      refine proceeds_bind_at ?_ fun outcome _ => ?_
      · rw [final_attempt]
        exact backing.run_observe desk
      · cases outcome with
        | ok isThere => exact (keeps_pure _).proceeds _
        | error failure =>
            dsimp only
            split
            · exact (keeps_pure _).proceeds _
            · exact (keeps_throw _).proceeds _
  | create => exact proceeds_bind_at (backing.run_create desk) fun _ _ => (keeps_pure _).proceeds _
  | update => exact proceeds_bind_at (backing.run_update desk) fun _ _ => (keeps_pure _).proceeds _
  | delete => exact proceeds_bind_at (backing.run_delete desk) fun _ _ => (keeps_pure _).proceeds _

/-- The names of the identifiers that the handler works with, none when a document cannot be made ready
for it. -/
def identifiersAt (type : EventType) (desk : Desk ω) : List String :=
  match answer (prepare type) desk with
  | .ok left => backing.identifiersIn left (final (prepare type) desk)
  | .error _ => []

theorem course_of_act (type : EventType) (desk : Desk (Recorded ω)) :
    Course (identifiersAt backing type desk) desk.document.object desk.session.writes
      (final (prepare type) desk).session.writes
      (final (prepare type >>= (controller.backedBy backing).act) desk).session.writes := by
  unfold identifiersAt
  rcases course_prepare type desk with ⟨⟨failure, failed⟩, kept⟩ | ⟨room, readied, run, stripped⟩
  · rw [final_bind, failed]
    dsimp only
    rw [kept]
    exact .idle _
  · cases prepared : answer (prepare type) desk with
    -- The finalizer could not be settled: the handler does not act.
    | error failure =>
        rw [final_bind, prepared]
        exact .handled room run .refl
    | ok left =>
        have acted := controller.run_act backing left (final (prepare type) desk)
        rw [Desk.trail, stripped left prepared] at acted
        rw [final_bind_ok prepared]
        exact .handled room run acted

/-- The desk of a live document that was fetched. -/
def deskOf (controller : Controller ω) (ref : ObjectRef) (session : Session ω) (live : Document) :
    Desk ω :=
  ⟨final (controller.fetch ref) session, live⟩

theorem writes_fetch (ref : ObjectRef) (session : Session (Recorded ω)) :
    (final (controller.fetch ref) session).writes = session.writes :=
  Recorded.detached_writes.keeps_made (controller.made_fetch ref) session

theorem writes_follow (ref : ObjectRef) (next : FollowUp) (s : ControlState (Recorded ω)) :
    (final (controller.follow ref next) s).session.writes = s.session.writes := by
  cases next <;> rfl

theorem writes_carryOut (event : Event) (live : Document) (s : ControlState (Recorded ω)) :
    (final (controller.carryOut event live) s).session.writes =
      (final (prepare event.type >>= controller.act) ⟨s.session, live⟩).session.writes := by
  unfold carryOut
  rw [final_bind, final_atDesk]
  cases answer (Control.atDesk live _) s with
  | ok next => exact controller.writes_follow event.ref next _
  | error failure => rfl

/-- A dispatch takes the fetched document through its course, and writes nothing when there is none. -/
theorem course_of_dispatch (event : Event) (s : ControlState (Recorded ω)) :
    (final ((controller.backedBy backing).dispatch event) s).session.writes = s.session.writes ∨
      ∃ live, answer (controller.fetch event.ref) s.session = .ok (some live) ∧
        Course (identifiersAt backing event.type (controller.deskOf event.ref s.session live))
          live.object s.session.writes
          (final (prepare event.type)
            (controller.deskOf event.ref s.session live)).session.writes
          (final ((controller.backedBy backing).dispatch event) s).session.writes := by
  have kept : (final (inSession (controller.fetch event.ref)) s).session.writes =
      s.session.writes := by
    rw [inSession, final_within]
    exact controller.writes_fetch event.ref s.session
  have asked : answer (inSession ((controller.backedBy backing).fetch event.ref)) s =
      answer (controller.fetch event.ref) s.session := answer_within ..
  unfold dispatch
  rw [final_bind, asked]
  cases fetched : answer (controller.fetch event.ref) s.session with
  | error failure => exact .inl kept
  | ok found =>
      cases found with
      | none => exact .inl kept
      | some live =>
          refine .inr ⟨live, rfl, ?_⟩
          have at_desk : (final (inSession (controller.fetch event.ref)) s).session =
              final (controller.fetch event.ref) s.session := by
            rw [inSession, final_within]
            rfl
          have course := controller.course_of_act backing event.type
            (controller.deskOf event.ref s.session live)
          change Course _ _ _ _ (final ((controller.backedBy backing).carryOut event live)
            (final (inSession (controller.fetch event.ref)) s)).session.writes
          rw [writes_carryOut, at_desk]
          rwa [show (controller.deskOf event.ref s.session live).session.writes = s.session.writes
            from controller.writes_fetch event.ref s.session] at course

end Dispatching

section Marking

/-- A tree is that of a document after it was marked as failed, at some time. -/
def Marks (doc : Document) (failure : Failure) (body : Value) : Prop :=
  ∃ now, let marking := Document.setReady (.failed failure.kind failure.sanitized) now
    answer marking doc = .ok () ∧ body = (final marking doc).object

theorem Marks.edited {doc : Document} {failure : Failure} {body : Value}
    (marks : Marks doc failure body) : Value.Edited [conditionsPath] doc.object body := by
  obtain ⟨now, -, rfl⟩ := marks
  exact touches_setCondition (by simp) _ _ doc

theorem writes_writeFailure (doc : Document) (failure : Failure) (session : Session (Recorded ω)) :
    ∃ made, (final (writeFailure doc failure) session).writes = session.writes ++ made ∧
      ∀ write ∈ made, Marks doc failure write.body := by
  let change := Document.setReady (.failed failure.kind failure.sanitized)
    (World.wallClock session.world)
  have clock : answer (Work.wallClock (ω := Recorded ω)) session =
      .ok (World.wallClock session.world) := rfl
  unfold writeFailure
  rw [final_bind_ok clock]
  split
  next marked changed =>
    have ran : change doc = .ok () marked := changed
    have marks : Marks doc failure marked.object := by
      refine ⟨World.wallClock session.world, ?_⟩
      change answer change doc = .ok () ∧ marked.object = (final change doc).object
      rw [answer, final, ran]
      exact ⟨rfl, rfl⟩
    obtain ⟨made, wrote, bodies⟩ := (Recorded.stores_updateStatus marked).writes session
    refine ⟨made, ?_, fun write member => bodies write member ▸ marks⟩
    rw [final_bind_pure (Cluster.updateStatus marked) fun _ => marked]
    exact wrote
  next => exact ⟨[], (List.append_nil _).symm, by simp⟩

/-- Marks the live resource as failed, if there is one. -/
def marking (controller : Controller ω) (ref : ObjectRef) (failure : Failure) :
    Work ω (Option Document) := do
  match ← controller.fetch ref with
  | none => pure none
  | some doc => pure (some (← writeFailure doc failure))

variable (controller : Controller (Recorded ω)) (ref : ObjectRef) (failure : Failure)
  (session : Session (Recorded ω))

/-- The resource that is marked as failed is the live one. -/
theorem writes_marking :
    ∃ made, (final (controller.marking ref failure) session).writes = session.writes ++ made ∧
      ∀ write ∈ made, ∃ live, answer (controller.fetch ref) session = .ok (some live) ∧
        Marks live failure write.body := by
  have kept := controller.writes_fetch ref session
  unfold marking
  cases fetched : answer (controller.fetch ref) session with
  | error fault =>
      refine ⟨[], ?_, by simp⟩
      rw [final_bind, fetched, List.append_nil]
      exact kept
  | ok found =>
      cases found with
      | none =>
          refine ⟨[], ?_, by simp⟩
          rw [final_bind_ok fetched, List.append_nil]
          exact kept
      | some live =>
          obtain ⟨made, wrote, bodies⟩ :=
            writes_writeFailure live failure (final (controller.fetch ref) session)
          refine ⟨made, ?_, fun write member => ⟨live, rfl, bodies write member⟩⟩
          rw [final_bind_ok fetched, ← kept, ← wrote]
          exact congrArg Session.writes (final_bind_pure (writeFailure live failure) some _)

/-- What became of the marking is only reported. -/
theorem writes_markFailed :
    (final (controller.markFailed ref failure) session).writes =
      (final (controller.marking ref failure) session).writes := by
  change (final (attempt (controller.marking ref failure) >>= _) session).writes = _
  rw [final_bind, answer_attempt, final_attempt]
  generalize answer (controller.marking ref failure) session = outcome
  dsimp only
  split
  · rfl
  · exact Recorded.detached_writes.keeps_emit _ _ _ _ _ _
  · exact Recorded.detached_writes.keeps_log (σ := Session (Recorded ω)) _ _ _
  · exact Recorded.detached_writes.keeps_log (σ := Session (Recorded ω)) _ _ _

end Marking

section Results

variable (controller : Controller (Recorded ω)) (backing : Backing)

/-- Everything that a controller writes, in a dispatch or to mark a resource as failed, is framed by the
live document that it fetched. -/
theorem writes_framed :
    (∀ (event : Event) (s : ControlState (Recorded ω)),
      ∃ made, (final ((controller.backedBy backing).dispatch event) s).session.writes =
          s.session.writes ++ made ∧
        ∀ write ∈ made, ∃ live,
          answer (controller.fetch event.ref) s.session = .ok (some live) ∧
            Framed (identifiersAt backing event.type (controller.deskOf event.ref s.session live))
              live.object write.body) ∧
      ∀ (ref : ObjectRef) (failure : Failure) (session : Session (Recorded ω)),
        ∃ made, (final (controller.markFailed ref failure) session).writes =
            session.writes ++ made ∧
          ∀ write ∈ made, ∃ live, answer (controller.fetch ref) session = .ok (some live) ∧
            Framed [] live.object write.body := by
  constructor
  · intro event s
    rcases controller.course_of_dispatch backing event s with unwritten | ⟨live, fetched, course⟩
    · exact ⟨[], by simp [unwritten], by simp⟩
    · obtain ⟨made, wrote, framed⟩ := course.framed
      exact ⟨made, wrote, fun write member => ⟨live, fetched, framed write member⟩⟩
  · intro ref failure session
    obtain ⟨made, wrote, marked⟩ := controller.writes_marking ref failure session
    refine ⟨made, (controller.writes_markFailed ref failure session).trans wrote, ?_⟩
    intro write member
    obtain ⟨live, fetched, marks⟩ := marked write member
    refine ⟨live, fetched, framed_of_edited (marks.edited.mono ?_)⟩
    simp [ownPaths, conditionsPath_handled]

/-- In a dispatch, every body carries the version that the cluster answered last, and that of the fetched
document before it answered one. -/
theorem writes_carry_versions (event : Event) (s : ControlState (Recorded ω)) :
    ∃ made, (final ((controller.backedBy backing).dispatch event) s).session.writes =
        s.session.writes ++ made ∧
      (made = [] ∨ ∃ live, answer (controller.fetch event.ref) s.session = .ok (some live) ∧
        Trail.Carries (live.object.follow versionPath) made) := by
  rcases controller.course_of_dispatch backing event s with unwritten | ⟨live, fetched, course⟩
  · exact ⟨[], by simp [unwritten], .inl rfl⟩
  · obtain ⟨made, wrote, carries⟩ := course.versions
    exact ⟨made, wrote, .inr ⟨live, fetched, carries⟩⟩

/-- In a dispatch, bodies that are written to make a document ready carry its annotations as they are,
and those that the handler writes lack the last applied configuration. -/
theorem writes_annotations (event : Event) (s : ControlState (Recorded ω)) :
    (final ((controller.backedBy backing).dispatch event) s).session.writes = s.session.writes ∨
      ∃ live prepared handled,
        answer (controller.fetch event.ref) s.session = .ok (some live) ∧
        (final (prepare event.type) (controller.deskOf event.ref s.session live)).session.writes =
          s.session.writes ++ prepared ∧
        (final ((controller.backedBy backing).dispatch event) s).session.writes =
          s.session.writes ++ prepared ++ handled ∧
        (∀ write ∈ prepared,
          write.body.follow annotationsPath = live.object.follow annotationsPath) ∧
        ∀ write ∈ handled, write.body.follow annotationsPath =
          (live.object.follow annotationsPath).map (·.remove [ lastAppliedAnnotation]) := by
  rcases controller.course_of_dispatch backing event s with unwritten | ⟨live, fetched, course⟩
  · exact .inl unwritten
  · obtain ⟨prepared, handled, grown, regrown, before, after⟩ := course.annotations
    exact .inr ⟨live, prepared, handled, fetched, grown, grown ▸ regrown, before, after⟩

end Results

/-- Every annotation of the fetched document stands in every body with which a dispatch replaces the
whole resource. -/
def KeepsAnnotations (controller : Controller (Recorded ω)) (event : Event)
    (s : ControlState (Recorded ω)) : Prop :=
  ∀ live, answer (controller.fetch event.ref) s.session = .ok (some live) →
    ∀ made, (final (controller.dispatch event) s).session.writes = s.session.writes ++ made →
      ∀ write ∈ made, write.isWhole = true → ∀ name value,
        live.object.follow (annotationsPath ++ [name]) = .ok value →
          write.body.follow (annotationsPath ++ [name]) = .ok value

/-- A resource that is to be deleted, with the annotation of a client that keeps what it applied last. -/
def goingObject : Value :=
  .ofFields
    [("apiVersion", .text "sample.example.org/v1alpha1"), ("kind", .text "Repo"),
      ("metadata", .ofFields
        [("annotations", .ofFields [( lastAppliedAnnotation, .text "applied")]),
          ("deletionTimestamp", .text "1970-01-01T00:00:00Z"),
          ("finalizers", .list [.text finalizer]), ("name", .text "demo"),
          ("namespace", .text "default")])]

/-- A controller of charts. -/
def chartController : Controller (Recorded Lone) where
  handler := (Backing.chart (.ofRecorder (.standard false))).handler
  resource := ⟨"sample.example.org", "v1alpha1", "repos"⟩
  recorder := .standard false
  options := .standard

/-- The start of a controller in a recorded world with a single object. -/
def recordedStart (object : Value) : ControlState (Recorded Lone) :=
  .start ((Lone.session (.ok object) (.whole 0)).inWorld ⟨⟨.ok object, .whole 0⟩, []⟩)
    (.standard (.whole 0))

set_option maxRecDepth 4000 in
/-- The document is released without the annotation. -/
theorem not_keepsAnnotations :
    ¬KeepsAnnotations chartController
      ⟨.delete, ⟨"sample.example.org/v1alpha1", "Repo", "demo", "default"⟩, "0"⟩
      (recordedStart goingObject) := by
  intro keeps
  have kept := keeps (.ofObject goingObject) rfl [_] rfl _ (List.mem_singleton_self _) rfl
    lastAppliedAnnotation (.text "applied") rfl
  contradiction

end Controller

end Reconciler
