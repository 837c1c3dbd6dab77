import Reconciler.Proofs.Reconciliation.Release

/-!
# Visits of the handler

A dispatch visits the handler at most once.  A visit is kept with the desk at which the handler began
and the one that it left behind, so that what is written before and after it can be told from what the
handler writes.  Before the handler acts, the live resource holds the operator's finalizer in the
cluster, unless it is to be deleted.
-/

namespace Reconciler

open Document

/-- A visit of the handler. -/
structure Visit (ω : Type) where
  /-- What the handler was asked, and what it answered. -/
  call : HandlerCall
  /-- The desk at which it began. -/
  before : Desk (Recorded ω)
  /-- The desk that it left behind. -/
  after : Desk (Recorded ω)

/-- A world outside, and the visits of the handler so far. -/
structure Visited (ω : Type) where
  /-- The world outside. -/
  world : ω
  /-- The visits of the handler. -/
  visits : List (Visit ω)

instance {ω : Type} [World ω] : World (Visited ω) where
  cluster call visited :=
    ((World.cluster call visited.world).1,
      { visited with world := (World.cluster call visited.world).2 })
  wire call visited :=
    ((World.wire call visited.world).1, { visited with world := (World.wire call visited.world).2 })
  chart call visited :=
    ((World.chart call visited.world).1,
      { visited with world := (World.chart call visited.world).2 })
  file visited := World.file visited.world
  wallClock visited := World.wallClock visited.world
  steadyClock visited := World.steadyClock visited.world
  freshId visited :=
    ((World.freshId visited.world).1, { visited with world := (World.freshId visited.world).2 })

/-- The visits of the handler so far. -/
def Session.visits {ω : Type} (session : Session (Recorded (Visited ω))) : List (Visit ω) :=
  session.world.world.visits

/-- Only the handler is visited: nothing that is asked of the world shows among the visits. -/
theorem detached_visits {ω : Type} [World ω] : Detached (Session.visits (ω := ω)) where
  called _ _ := rfl
  identified _ := rfl
  reported _ _ := rfl

namespace Desk

variable {ω : Type}

/-- The desk as the handler sees it. -/
def bare (desk : Desk (Recorded (Visited ω))) : Desk (Recorded ω) :=
  ⟨desk.session.inWorld ⟨desk.session.world.world.world, desk.session.writes⟩, desk.document⟩

/-- The desk of a handler, among visits. -/
def among (visits : List (Visit ω)) (desk : Desk (Recorded ω)) : Desk (Recorded (Visited ω)) :=
  ⟨desk.session.inWorld ⟨⟨desk.session.world.world, visits⟩, desk.session.writes⟩, desk.document⟩

end Desk

section Visiting

variable {ω α : Type} (call : Except Failure α → HandlerCall) (act : Reconcile (Recorded ω) α)
  (desk : Desk (Recorded (Visited ω)))

/-- The visit in which a handler acts at a desk. -/
def visitAt : Visit ω :=
  ⟨call (answer act desk.bare), desk.bare, final act desk.bare⟩

/-- Work of a handler, which is kept as a visit. -/
def visiting : Reconcile (Recorded (Visited ω)) α := do
  let desk ← get
  set ((final act desk.bare).among (desk.session.visits ++ [visitAt call act desk]))
  ofExcept (answer act desk.bare)

@[simp]
theorem answer_visiting : answer (visiting call act) desk = answer act desk.bare :=
  answer_ofExcept ..

@[simp]
theorem final_visiting :
    final (visiting call act) desk =
      (final act desk.bare).among (desk.session.visits ++ [visitAt call act desk]) :=
  final_ofExcept ..

end Visiting

/-- The handler whose visits are kept. -/
def Handler.visited {ω : Type} (handler : Handler (Recorded ω)) :
    Handler (Recorded (Visited ω)) where
  observe := visiting .observed handler.observe
  create := visiting (.acted .create) handler.create
  update := visiting (.acted .update) handler.update
  delete := visiting (.acted .delete) handler.delete

/-- The controller whose handler's visits are kept. -/
def Controller.visited {ω : Type} (controller : Controller (Recorded ω)) :
    Controller (Recorded (Visited ω)) :=
  ⟨controller.handler.visited, controller.resource, controller.recorder, controller.options⟩

/-! ## Documents that are made ready -/

namespace Document

/-- The metadata of a document is a map, and its finalizers are some items, none when it states no
finalizers. -/
structure Bears (doc : Document) (items : List Value) : Prop where
  /-- The metadata is a map. -/
  metadata : ∃ entries, doc.object.follow ["metadata"] = .ok (.map entries)
  /-- The finalizers, where they are stated. -/
  finalizers : doc.object.follow finalizersPath = .ok (.list items) ∨
    doc.object.follow finalizersPath = .error .absent ∧ items = []

/-- A document is to be deleted: it states when this was asked for. -/
def isDeleted (doc : Document) : Bool :=
  match doc.deletionTimestamp with
  | .ok stamp => !stamp.isBlank
  | .error _ => false

variable {doc : Document} {items : List Value}

theorem Bears.member (bears : doc.Bears items) (name : String) :
    ∃ value, doc.metadataMember name = .ok value := by
  obtain ⟨object, uid⟩ := doc
  obtain ⟨⟨entries, stated⟩, -⟩ := bears
  cases object with
  | scalar s => contradiction
  | list items => contradiction
  | map fields =>
      have found : Fields.get? fields "metadata" = some (.map entries) := by
        rw [Value.follow_map] at stated
        cases here : Fields.get? fields "metadata" with
        | none => simp [here] at stated
        | some value => simpa [here, Except.mapError] using stated
      refine ⟨(Fields.get? entries name).getD .null, ?_⟩
      simp [metadataMember, Value.memberOr, found, Value.member, bind, Except.bind]

theorem Bears.room (bears : doc.Bears items) : doc.object.HasRoom "metadata" :=
  .inr bears.metadata

theorem Bears.finalizers_eq (bears : doc.Bears items) : doc.finalizers = .ok items := by
  rcases bears.finalizers with stated | ⟨absent, rfl⟩
  · exact finalizers_of_follow stated
  · obtain ⟨value, told⟩ := bears.member "finalizers"
    obtain rfl : value = .null := by
      by_contra stated
      have found := (metadataMember_eq_iff doc "finalizers" stated).mp told
      rw [show ["metadata", "finalizers"] = finalizersPath from rfl, absent] at found
      contradiction
    rw [Document.finalizers, metadataItems, told]
    rfl

theorem Bears.follow_withFinalizers (bears : doc.Bears items) (others : List Value) :
    (doc.withFinalizers others).object.follow finalizersPath = .ok (.list others) := by
  obtain ⟨written, done⟩ := bears.room.exists_write "finalizers" (.list others)
  have wrote : doc.object.write finalizersPath (.list others) = .ok written := done
  rw [withFinalizers, Value.written, wrote]
  exact Value.follow_write wrote

theorem Bears.room_withFinalizers (bears : doc.Bears items) (others : List Value) :
    (doc.withFinalizers others).object.HasRoom "metadata" :=
  (Value.Edited.written (List.mem_singleton_self finalizersPath) _ _).hasRoom (by decide) bears.room

theorem Bears.follow_of_held (bears : doc.Bears items) (held : holdsFinalizer items = true) :
    doc.object.follow finalizersPath = .ok (.list items) := by
  refine bears.finalizers.resolve_right fun ⟨_, none_stated⟩ => ?_
  rw [none_stated] at held
  contradiction

/-- A document that holds the operator's finalizer stays as it is. -/
theorem Bears.ensureFinalizer_of_held (bears : doc.Bears items) (held : holdsFinalizer items = true) :
    answer ensureFinalizer doc = .ok false ∧ final ensureFinalizer doc = doc := by
  unfold ensureFinalizer
  rw [answer_bind_ok (answer_get doc), final_bind_ok (answer_get doc), final_get,
    bears.finalizers_eq, answer_bind_ok (answer_ofExcept _ doc),
    final_bind_ok (answer_ofExcept _ doc), final_ofExcept, if_pos held]
  exact ⟨rfl, rfl⟩

/-- To a document without the operator's finalizer it is added behind the others. -/
theorem Bears.ensureFinalizer_of_lacking (bears : doc.Bears items)
    (lacking : holdsFinalizer items = false) :
    answer ensureFinalizer doc = .ok true ∧
      final ensureFinalizer doc = doc.withFinalizers (items ++ [.text finalizer]) := by
  obtain ⟨written, done⟩ :=
    bears.room.exists_write "finalizers" (.list (items ++ [.text finalizer]))
  have wrote : answer (setFinalizers (items ++ [.text finalizer])) doc = .ok () :=
    answer_setField (by simp) done
  have left : final (setFinalizers (items ++ [.text finalizer])) doc =
      doc.withFinalizers (items ++ [.text finalizer]) :=
    final_setField (by simp) _ doc
  unfold ensureFinalizer
  rw [answer_bind_ok (answer_get doc), final_bind_ok (answer_get doc), final_get,
    bears.finalizers_eq, answer_bind_ok (answer_ofExcept _ doc),
    final_bind_ok (answer_ofExcept _ doc), final_ofExcept, if_neg (by simp [lacking]),
    answer_bind_ok wrote, final_bind_ok wrote, left]
  exact ⟨rfl, rfl⟩

theorem follow_withoutTransientMetadata (doc : Document) :
    doc.withoutTransientMetadata.object.follow finalizersPath = doc.object.follow finalizersPath := by
  rw [object_withoutTransientMetadata]
  exact (edited_stripped doc.object).follow_eq (by decide)

end Document

section Persisting

variable {ω : Type} [World ω]

/-- The cluster took a write, and answered a tree whose metadata can be read. -/
def Write.isTaken (write : Write) : Bool :=
  match write.answer with
  | .ok stored => ((Cluster.documentOf stored).metadataMember "resourceVersion").isOk
  | .error _ => false

/-- The document at hand is written as a whole, and the version that is answered is taken over; this fails
when the write is not made, or not taken. -/
theorem persist_cases {desk : Desk (Recorded ω)} (room : desk.document.object.HasRoom "metadata") :
    (∃ write, write.isWhole = true ∧ write.body = desk.document.object ∧ write.isTaken = true ∧
      answer Handling.persist desk = .ok () ∧
      (final Handling.persist desk).trail =
        ⟨stamped desk.document.object write.version?, desk.session.writes ++ [write]⟩) ∨
    ∃ failure made, answer Handling.persist desk = .error failure ∧
      (final Handling.persist desk).session.writes = desk.session.writes ++ made ∧
      ∀ write ∈ made, write.isTaken = false := by
  unfold Handling.persist
  rw [answer_current_bind, answer_bind, final_current_bind, final_bind, answer_inSession,
    final_inSession]
  rcases Recorded.stores_update desk.document desk.session with ⟨⟨failure, failed, -⟩, kept⟩ |
    ⟨write, whole, body, answered, wrote⟩
  · refine .inr ⟨failure, [], ?_, ?_, by simp⟩
    · rw [failed]
    · rw [failed]
      exact kept.trans (List.append_nil _).symm
  · cases stored : write.answer with
    | error failure =>
        refine .inr ⟨failure, [write], ?_, ?_, by simp [Write.isTaken, stored]⟩
        · rw [answered, stored]
          rfl
        · rw [answered, stored]
          exact wrote
    | ok object =>
        let next : Desk (Recorded ω) :=
          ⟨final (Cluster.update desk.document) desk.session, desk.document⟩
        have left := trail_adoptVersion (Cluster.documentOf object) next
        have version : write.version? = version? object := by rw [Write.version?, stored]
        rw [version?_documentOf, ← version, wrote] at left
        rw [answered, stored]
        cases told : (Cluster.documentOf object).metadataMember "resourceVersion" with
        | ok value =>
            have taken : write.isTaken = true := by
              simp [Write.isTaken, stored, told, Except.isOk, Except.toBool]
            refine .inl ⟨write, whole, body, taken, ?_, left⟩
            exact (answer_within ..).trans (answer_adoptVersion told room)
        | error fault =>
            refine .inr ⟨fault, [write], ?_, congrArg Trail.writes left, ?_⟩
            · refine (answer_within ..).trans ?_
              unfold adoptVersion
              rw [told]
              rfl
            · simp [Write.isTaken, stored, told, Except.isOk, Except.toBool]

end Persisting

namespace Controller

section Preparing

variable {ω : Type}

theorem final_isGoing (desk : Desk ω) : final isGoing desk = desk := by
  unfold isGoing
  rw [final_current_bind, final_bind_pure, final_ofExcept]

variable {desk : Desk (Recorded ω)} {items : List Value}

theorem answer_isGoing (bears : desk.document.Bears items) :
    answer isGoing desk = .ok desk.document.isDeleted := by
  obtain ⟨stamp, told⟩ := bears.member "deletionTimestamp"
  have stated : desk.document.deletionTimestamp = .ok stamp := told
  unfold isGoing
  rw [answer_current_bind, answer_bind_pure, answer_ofExcept, stated, isDeleted, stated]
  rfl

variable [World ω]

/-- A desk whose document was made ready for the handler: it has lost its transient metadata. -/
def readied (desk : Desk ω) : Desk ω :=
  { desk with document := desk.document.withoutTransientMetadata }

/-- A document is made ready by settling its finalizer, and stripped when that succeeds. -/
theorem prepare_of_told {going : Bool} (told : answer isGoing desk = .ok going) (type : EventType) :
    answer (prepare type) desk =
        (answer (holdFinalizer going) desk).map (fun _ => if going then .delete else type) ∧
      final (prepare type) desk =
        match answer (holdFinalizer going) desk with
        | .ok () => readied (final (holdFinalizer going) desk)
        | .error _ => final (holdFinalizer going) desk := by
  rw [prepare_eq, answer_bind_ok told, final_bind_ok told, final_isGoing, answer_bind, final_bind]
  cases answer (holdFinalizer going) desk <;> exact ⟨rfl, rfl⟩

/-- A document that is to be deleted is left to the deletion, whatever the event asks for. -/
theorem prepare_of_deleted (bears : desk.document.Bears items)
    (deleted : desk.document.isDeleted = true) (type : EventType) :
    answer (prepare type) desk = .ok .delete ∧ final (prepare type) desk = readied desk :=
  prepare_of_told (deleted ▸ answer_isGoing bears) type

/-- A document that holds the operator's finalizer is not written. -/
theorem prepare_of_held (bears : desk.document.Bears items)
    (live : desk.document.isDeleted = false) (held : holdsFinalizer items = true)
    (type : EventType) :
    answer (prepare type) desk = .ok type ∧ final (prepare type) desk = readied desk := by
  obtain ⟨unchanged, same⟩ := bears.ensureFinalizer_of_held held
  have settled : answer (holdFinalizer (ω := Recorded ω) false) desk = .ok () ∧
      final (holdFinalizer (ω := Recorded ω) false) desk = desk := by
    have told : answer (Desk.edit (ω := Recorded ω) ensureFinalizer) desk = .ok false :=
      (answer_within ..).trans unchanged
    change answer (Desk.edit ensureFinalizer >>= _) desk = _ ∧
      final (Desk.edit ensureFinalizer >>= _) desk = _
    rw [answer_bind_ok told, final_bind_ok told, Desk.edit, final_within, same]
    exact ⟨rfl, rfl⟩
  have prepared := prepare_of_told (live ▸ answer_isGoing bears) type
  rw [settled.1, settled.2] at prepared
  exact prepared

/-- A document that lacks the operator's finalizer is written with it behind the others, and made ready
when the cluster takes it. -/
theorem prepare_of_lacking (bears : desk.document.Bears items)
    (live : desk.document.isDeleted = false) (lacking : holdsFinalizer items = false)
    (type : EventType) :
    (∃ write, write.isWhole = true ∧
      write.body = (desk.document.withFinalizers (items ++ [.text finalizer])).object ∧
      write.isTaken = true ∧ answer (prepare type) desk = .ok type ∧
      (final (prepare type) desk).session.writes = desk.session.writes ++ [write] ∧
      (final (prepare type) desk).document.object.follow finalizersPath =
        .ok (.list (items ++ [.text finalizer]))) ∨
    ∃ failure made, answer (prepare type) desk = .error failure ∧
      (final (prepare type) desk).session.writes = desk.session.writes ++ made ∧
      ∀ write ∈ made, write.isTaken = false := by
  let held := desk.withFinalizers (items ++ [.text finalizer])
  obtain ⟨changed, edited⟩ := bears.ensureFinalizer_of_lacking lacking
  have told : answer (Desk.edit (ω := Recorded ω) ensureFinalizer) desk = .ok true :=
    (answer_within ..).trans changed
  have settled : answer (holdFinalizer (ω := Recorded ω) false) desk = answer Handling.persist held ∧
      final (holdFinalizer (ω := Recorded ω) false) desk = final Handling.persist held := by
    change answer (Desk.edit ensureFinalizer >>= _) desk = _ ∧
      final (Desk.edit ensureFinalizer >>= _) desk = _
    rw [answer_bind_ok told, final_bind_ok told, Desk.edit, final_within, edited]
    exact ⟨rfl, rfl⟩
  obtain ⟨answers, leaves⟩ := prepare_of_told (live ▸ answer_isGoing bears) type
  rw [settled.1] at answers leaves
  rw [settled.2] at leaves
  have room : held.document.object.HasRoom "metadata" := bears.room_withFinalizers _
  rcases persist_cases room with
    ⟨write, whole, body, taken, done, left⟩ | ⟨failure, made, failed, wrote, untaken⟩
  · rw [done] at answers leaves
    refine .inl ⟨write, whole, body, taken, answers, ?_, ?_⟩
    · rw [leaves]
      exact congrArg Trail.writes left
    · have edited : Value.Edited [versionPath] held.document.object
          (stamped held.document.object write.version?) := Trail.edited_stamped write.version? _
      have carried : (stamped held.document.object write.version?).follow finalizersPath =
          held.document.object.follow finalizersPath :=
        edited.follow_eq (by decide)
      rw [leaves]
      refine (follow_withoutTransientMetadata _).trans ?_
      exact ((congrArg (fun trail : Trail => trail.object.follow finalizersPath) left).trans
        carried).trans (bears.follow_withFinalizers _)
  · rw [failed] at answers leaves
    exact .inr ⟨failure, made, answers, by rw [leaves]; exact wrote, untaken⟩

end Preparing

section Acting

variable {ω : Type} (controller : Controller (Recorded ω))

/-- The handler is visited once for an event type, at the desk at hand, and nothing else is done there. -/
theorem act_visits (left : EventType) (desk : Desk (Recorded (Visited ω))) :
    ∃ visit : Visit ω, visit.call.type = left ∧ visit.before = desk.bare ∧
      answer (controller.visited.act left) desk = advice visit.call ∧
      final (controller.visited.act left) desk =
        visit.after.among (desk.session.visits ++ [visit]) := by
  have acted (type : EventType) (work : Reconcile (Recorded ω) Unit) :
      answer (do
          visiting (.acted type) work
          pure FollowUp.nothing) desk = advice (visitAt (.acted type) work desk).call ∧
        final (do
          visiting (.acted type) work
          pure FollowUp.nothing) desk =
            (visitAt (.acted type) work desk).after.among
              (desk.session.visits ++ [visitAt (.acted type) work desk]) := by
    rw [answer_bind, final_bind, answer_visiting, final_visiting, visitAt, advice]
    cases answer work desk.bare <;> exact ⟨rfl, rfl⟩
  cases left with
  | observe =>
      refine ⟨visitAt .observed controller.handler.observe desk, rfl, rfl, ?_⟩
      have looked : answer controller.visited.handler.observe desk =
          answer controller.handler.observe desk.bare := answer_visiting ..
      have left : final controller.visited.handler.observe desk = _ := final_visiting ..
      unfold act
      rw [answer_bind, final_bind, answer_attempt, final_attempt, looked, left, visitAt]
      cases answer controller.handler.observe desk.bare with
      | ok isThere => cases isThere <;> exact ⟨rfl, rfl⟩
      | error failure =>
          simp only [advice]
          split <;> exact ⟨rfl, rfl⟩
  | create => exact ⟨_, rfl, rfl, acted .create controller.handler.create⟩
  | update => exact ⟨_, rfl, rfl, acted .update controller.handler.update⟩
  | delete => exact ⟨_, rfl, rfl, acted .delete controller.handler.delete⟩

/-- What becomes of the queue after a call of the handler, and how the dispatch ends. -/
def Followed (controller : Controller (Recorded ω)) (event : Event) (q : EventQueue) :
    HandlerCall → EventQueue → Except Failure Unit → Prop
  | .observed (.ok true), next, outcome => next = q ∧ outcome = .ok ()
  | .observed (.ok false), next, outcome =>
    (∃ now id, next = q.addAfter now ⟨.create, event.ref, id⟩ controller.options.createDelay) ∧
      outcome = .ok ()
  | .observed (.error failure), next, outcome =>
    if failure.isNotFound then (∃ id, next = q.add ⟨.update, event.ref, id⟩) ∧ outcome = .ok ()
    else next = q ∧ outcome = .error failure
  | .acted _ answer, next, outcome => next = q ∧ outcome = answer

variable {controller} {call : HandlerCall}

/-- A call that leaves nothing to be advised fails the dispatch as it did. -/
theorem followed_of_failure (event : Event) (q : EventQueue) {failure : Failure}
    (advised : advice call = .error failure) :
    Followed controller event q call q (.error failure) := by
  match call with
  | .observed (.ok true) => contradiction
  | .observed (.ok false) => contradiction
  | .observed (.error fault) =>
      cases missing : fault.isNotFound with
      | true => simp [advice, missing] at advised
      | false =>
          obtain rfl : fault = failure := by simpa [advice, missing] using advised
          simp [Followed, missing]
  | .acted _ (.ok _) => contradiction
  | .acted _ (.error fault) =>
      obtain rfl : fault = failure := by simpa [advice, Except.map] using advised
      exact ⟨rfl, rfl⟩

variable [World ω]

/-- The event that a call advises is added, and nothing else is done. -/
theorem follow_of_advice (event : Event) {next : FollowUp} (advised : advice call = .ok next)
    (s : ControlState (Recorded (Visited ω))) :
    let run := controller.visited.follow event.ref next
    (final run s).session.visits = s.session.visits ∧
      (final run s).session.writes = s.session.writes ∧
      Followed controller event s.queue call (final run s).queue (answer run s) := by
  match call with
  | .observed (.ok true) =>
      obtain rfl := Except.ok.inj advised
      exact ⟨rfl, rfl, rfl, rfl⟩
  | .observed (.ok false) =>
      obtain rfl := Except.ok.inj advised
      exact ⟨rfl, rfl, ⟨_, _, rfl⟩, rfl⟩
  | .observed (.error fault) =>
      cases missing : fault.isNotFound with
      | true =>
          obtain rfl : .update fault = next := by simpa [advice, missing] using advised
          refine ⟨rfl, rfl, ?_⟩
          simp only [Followed, missing, if_true]
          exact ⟨⟨_, rfl⟩, rfl⟩
      | false => simp [advice, missing] at advised
  | .acted _ (.ok _) =>
      obtain rfl := Except.ok.inj advised
      exact ⟨rfl, rfl, rfl, rfl⟩
  | .acted _ (.error fault) => contradiction

end Acting

section Dispatching

variable {ω : Type} [World ω] (controller : Controller (Recorded ω)) (event : Event)

/-- An event on a live resource visits the handler once the resource is made ready, and then adds the
event that the call asks for. -/
theorem carryOut_visits (live : Document) (s : ControlState (Recorded (Visited ω))) :
    let run := controller.visited.carryOut event live
    let readying := prepare (ω := Recorded (Visited ω)) event.type
    (∃ left visit, answer readying ⟨s.session, live⟩ = .ok left ∧ visit.call.type = left ∧
      visit.before = (final readying ⟨s.session, live⟩).bare ∧
      (final run s).session.visits = s.session.visits ++ [visit] ∧
      (final run s).session.writes = visit.after.session.writes ∧
      Followed controller event s.queue visit.call (final run s).queue (answer run s)) ∨
    ∃ failure, answer readying ⟨s.session, live⟩ = .error failure ∧
      (final run s).session.visits = s.session.visits ∧
      (final run s).session.writes = (final readying ⟨s.session, live⟩).session.writes ∧
      (final run s).queue = s.queue ∧ answer run s = .error failure := by
  dsimp only
  have kept : (final (prepare event.type) ⟨s.session, live⟩).session.visits = s.session.visits :=
    detached_visits.keeps_done (done_prepare rfl rfl event.type) ⟨s.session, live⟩
  unfold carryOut
  rw [answer_bind, final_bind, answer_atDesk, final_atDesk, answer_bind, final_bind]
  cases prepared : answer (prepare event.type) ⟨s.session, live⟩ with
  | error failure => exact .inr ⟨failure, rfl, kept, rfl, rfl, rfl⟩
  | ok left =>
      obtain ⟨visit, type, before, answered, after⟩ :=
        controller.act_visits left (final (prepare event.type) ⟨s.session, live⟩)
      refine .inl ⟨left, visit, rfl, type, before, ?_⟩
      dsimp only
      rw [answered, after, kept]
      cases advised : advice visit.call with
      | error failure => exact ⟨rfl, rfl, followed_of_failure event s.queue advised⟩
      | ok next => exact follow_of_advice event advised _

/-- How a dispatch comes to visit the handler, or not, on a live document with some finalizers: what was
written before is told from what is written in the dispatch. -/
inductive Routed (type : EventType) (live : Document) (items : List Value) (before : List Write) :
    List (Visit ω) → List Write → Except Failure Unit → Prop where
  /-- A document that is to be deleted is deleted, and not written before. -/
  | deleted {visit : Visit ω} (going : live.isDeleted = true) (call : visit.call.type = .delete)
    (unwritten : visit.before.session.writes = before) (after : List Write)
    (outcome : Except Failure Unit) : Routed type live items before [visit] after outcome
  /-- A document that holds the operator's finalizer is handled as the event asks. -/
  | held {visit : Visit ω} (live_on : live.isDeleted = false) (held : holdsFinalizer items = true)
    (call : visit.call.type = type) (unwritten : visit.before.session.writes = before)
    (given : visit.before.document.object.follow finalizersPath = .ok (.list items))
    (after : List Write) (outcome : Except Failure Unit) :
    Routed type live items before [visit] after outcome
  /-- A document that lacks the operator's finalizer is handled as the event asks, once it was written
  with the finalizer behind the others. -/
  | added {visit : Visit ω} (live_on : live.isDeleted = false) (lacking : holdsFinalizer items = false)
    (call : visit.call.type = type) {write : Write} (whole : write.isWhole = true)
    (body : write.body = (live.withFinalizers (items ++ [.text finalizer])).object)
    (taken : write.isTaken = true) (written : visit.before.session.writes = before ++ [write])
    (given : visit.before.document.object.follow finalizersPath =
      .ok (.list (items ++ [.text finalizer])))
    (after : List Write) (outcome : Except Failure Unit) :
    Routed type live items before [visit] after outcome
  /-- A document that cannot be written with the operator's finalizer is not handled. -/
  | refused (live_on : live.isDeleted = false) (lacking : holdsFinalizer items = false)
    (failure : Failure) {made : List Write} (untaken : ∀ write ∈ made, write.isTaken = false) :
    Routed type live items before [] (before ++ made) (.error failure)

/-- A visit of the handler on a live document, by the way in which the document was made ready. -/
theorem routed_of_prepared {live : Document} {items : List Value}
    {session : Session (Recorded (Visited ω))}
    (bears : (Desk.mk session live).document.Bears items) {type left : EventType} {visit : Visit ω}
    (prepared : answer (prepare type) ⟨session, live⟩ = .ok left)
    (call : visit.call.type = left)
    (before : visit.before = (final (prepare type) ⟨session, live⟩).bare) (after : List Write)
    (outcome : Except Failure Unit) :
    Routed type live items session.writes [visit] after outcome := by
  have given : visit.before.document.object.follow finalizersPath =
      (final (prepare type) ⟨session, live⟩).document.object.follow finalizersPath := by
    rw [before]
    rfl
  have written : visit.before.session.writes =
      (final (prepare type) ⟨session, live⟩).session.writes := by
    rw [before]
    rfl
  cases going : live.isDeleted with
  | true =>
      obtain ⟨told, ready⟩ := prepare_of_deleted bears going type
      obtain rfl : left = .delete := Except.ok.inj (prepared.symm.trans told)
      rw [ready] at written
      exact .deleted going call written after outcome
  | false =>
      cases holding : holdsFinalizer items with
      | true =>
          obtain ⟨told, ready⟩ := prepare_of_held bears going holding type
          obtain rfl : left = type := Except.ok.inj (prepared.symm.trans told)
          rw [ready] at written given
          refine .held going holding call written ?_ after outcome
          exact given.trans ((follow_withoutTransientMetadata live).trans
            (bears.follow_of_held holding))
      | false =>
          rcases prepare_of_lacking bears going holding type with
            ⟨write, whole, body, taken, told, wrote, ready⟩ | ⟨failure, made, failed, -, -⟩
          · obtain rfl : left = type := Except.ok.inj (prepared.symm.trans told)
            exact .added going holding call whole body taken (written.trans wrote)
              (given.trans ready) after outcome
          · rw [prepared] at failed
            contradiction

/-- A document that cannot be made ready is one that cannot be written with the operator's finalizer. -/
theorem routed_of_unprepared {live : Document} {items : List Value}
    {session : Session (Recorded (Visited ω))}
    (bears : (Desk.mk session live).document.Bears items) {type : EventType} {failure : Failure}
    (unprepared : answer (prepare type) ⟨session, live⟩ = .error failure) :
    Routed (ω := ω) type live items session.writes []
      (final (prepare type) ⟨session, live⟩).session.writes (.error failure) := by
  cases going : live.isDeleted with
  | true =>
      obtain ⟨told, -⟩ := prepare_of_deleted bears going type
      rw [unprepared] at told
      contradiction
  | false =>
      cases holding : holdsFinalizer items with
      | true =>
          obtain ⟨told, -⟩ := prepare_of_held bears going holding type
          rw [unprepared] at told
          contradiction
      | false =>
          rcases prepare_of_lacking bears going holding type with
            ⟨_, _, _, _, told, -⟩ | ⟨fault, made, failed, wrote, untaken⟩
          · rw [unprepared] at told
            contradiction
          · obtain rfl : failure = fault := Except.error.inj (unprepared.symm.trans failed)
            rw [wrote]
            exact .refused going holding failure untaken

/-- An event on a live resource visits the handler at most once, and what the call advises follows. -/
theorem carryOut_routed (live : Document) (s : ControlState (Recorded (Visited ω))) :
    let run := controller.visited.carryOut event live
    ∃ visits, (final run s).session.visits = s.session.visits ++ visits ∧ visits.length ≤ 1 ∧
      (visits = [] → (final run s).queue = s.queue) ∧
      (∀ visit ∈ visits, (final run s).session.writes = visit.after.session.writes ∧
        Followed controller event s.queue visit.call (final run s).queue (answer run s)) ∧
      ∀ items, live.Bears items →
        Routed event.type live items s.session.writes visits (final run s).session.writes
          (answer run s) := by
  dsimp only
  rcases controller.carryOut_visits event live s with
    ⟨left, visit, prepared, call, before, visits, writes, followed⟩ |
    ⟨failure, unprepared, visits, writes, queue, answered⟩
  · refine ⟨[visit], visits, Nat.le_refl 1, by simp, ?_, fun items bears => ?_⟩
    · rintro _ member
      obtain rfl := List.mem_singleton.mp member
      exact ⟨writes, followed⟩
    · exact routed_of_prepared bears prepared call before _ _
  · refine ⟨[], by simpa using visits, Nat.zero_le 1, fun _ => queue, by simp, ?_⟩
    intro items bears
    rw [writes, answered]
    exact routed_of_unprepared bears unprepared

/-- A dispatch visits the handler at most once, and not at all when the resource is gone or cannot be read.
A live resource that is to be deleted is deleted and not written before; any other is handled as the event
asks, once it holds the operator's finalizer in the cluster.  Only an observation adds to the queue: the
creation of what is absent, with a delay, or the update of what differs. -/
theorem dispatch_visits (s : ControlState (Recorded (Visited ω))) :
    let run := controller.visited.dispatch event
    ∃ visits, (final run s).session.visits = s.session.visits ++ visits ∧ visits.length ≤ 1 ∧
      (visits = [] → (final run s).queue = s.queue) ∧
      (∀ visit ∈ visits, (final run s).session.writes = visit.after.session.writes ∧
        Followed controller event s.queue visit.call (final run s).queue (answer run s)) ∧
      match answer (controller.visited.fetch event.ref) s.session with
      | .error failure => visits = [] ∧ answer run s = .error failure
      | .ok none => visits = [] ∧ answer run s = .ok ()
      | .ok (some live) => ∀ items, live.Bears items →
          Routed event.type live items s.session.writes visits (final run s).session.writes
            (answer run s) := by
  let fetching : Control (Recorded (Visited ω)) (Option Document) :=
    inSession (controller.visited.fetch event.ref)
  have visits : (final fetching s).session.visits = s.session.visits :=
    keeps_inSession (detached_visits.keeps_made (controller.visited.made_fetch event.ref)) s
  have unvisited : (final fetching s).session.visits = s.session.visits ++ [] :=
    visits.trans (List.append_nil _).symm
  have writes : (final fetching s).session.writes = s.session.writes :=
    keeps_inSession (Recorded.detached_writes.keeps_made (controller.visited.made_fetch event.ref)) s
  have queue : (final fetching s).queue = s.queue := by
    rw [show final fetching s = _ from final_within ..]
    rfl
  have asked : answer fetching s = answer (controller.visited.fetch event.ref) s.session :=
    answer_within ..
  dsimp only
  unfold dispatch
  rw [answer_bind, final_bind, asked]
  cases fetched : answer (controller.visited.fetch event.ref) s.session with
  | error failure =>
      exact ⟨[], unvisited, Nat.zero_le 1, fun _ => queue, by simp, rfl, rfl⟩
  | ok found =>
      cases found with
      | none => exact ⟨[], unvisited, Nat.zero_le 1, fun _ => queue, by simp, rfl, rfl⟩
      | some live =>
          have routed := controller.carryOut_routed event live (final fetching s)
          rw [visits, writes, queue] at routed
          exact routed

end Dispatching

/-- A resource without finalizers. -/
def bareObject : Value :=
  .ofFields
    [("apiVersion", .text "sample.example.org/v1alpha1"), ("kind", .text "Repo"),
      ("metadata", .ofFields [("name", .text "demo"), ("namespace", .text "default")])]

/-- A controller whose handler finds nothing. -/
def findingNothing : Controller (Recorded Lone) where
  handler := ⟨pure false, pure (), pure (), pure ()⟩
  resource := ⟨"sample.example.org", "v1alpha1", "repos"⟩
  recorder := .standard false
  options := .standard

/-- The start of a controller whose visits are kept. -/
def visitedStart (object : Value) : ControlState (Recorded (Visited Lone)) :=
  .start ((Lone.session (.ok object) (.whole 0)).inWorld ⟨⟨⟨.ok object, .whole 0⟩, []⟩, []⟩)
    (.standard (.whole 0))

theorem bears_bareObject : (Document.ofObject bareObject).Bears [] :=
  ⟨⟨_, rfl⟩, .inr ⟨rfl, rfl⟩⟩

set_option maxRecDepth 4000 in
/-- The bare resource is written with the finalizer, and then observed. -/
theorem dispatch_visits_bare :
    let event : Event :=
      ⟨.observe, ⟨"sample.example.org/v1alpha1", "Repo", "demo", "default"⟩, "0"⟩
    let run := findingNothing.visited.dispatch event
    let s := visitedStart bareObject
    (final run s).session.visits.length = 1 ∧ (final run s).session.writes.length = 1 ∧
      ∃ visits, (final run s).session.visits = visits ∧
        Routed .observe (.ofObject bareObject) [] [] visits (final run s).session.writes
          (answer run s) := by
  refine ⟨rfl, rfl, ?_⟩
  obtain ⟨visits, grown, -, -, -, routed⟩ :=
    dispatch_visits findingNothing
      ⟨.observe, ⟨"sample.example.org/v1alpha1", "Repo", "demo", "default"⟩, "0"⟩
      (visitedStart bareObject)
  exact ⟨visits, grown, routed [] bears_bareObject⟩

end Controller

end Reconciler
