import Reconciler.Proofs.Controller.Noted

/-!
# Resources that are gone, and resources that are ready

Two answers of the cluster decide alone what an event does.  While its resource is gone, an event is
dropped without a call of the handler.  While its resource is found, holds the operator's finalizer and
is not to be deleted, an event that asks for the creation of the external resource has it created.
-/

namespace Reconciler

section Answers

variable {ω : Type} [World ω]

theorem answer_cluster {α : Type} (call : ClusterCall α) (session : Session ω) :
    answer (Work.cluster call) session = (World.cluster call session.world).1 := by
  unfold answer Work.cluster Work.ask
  rcases World.cluster call session.world with ⟨_ | _, _⟩ <;> rfl

theorem answer_read {resource : GroupVersionResource} (grouped : resource.group.isEmpty = false)
    (namespace_ name : String) (session : Session ω) :
    answer (Cluster.read resource namespace_ name) session =
      (World.cluster (.get resource namespace_ name) session.world).1.map Cluster.documentOf := by
  unfold Cluster.read
  rw [if_neg (by simp [grouped]), answer_bind, Cluster.answer_metered, answer_cluster]
  cases (World.cluster (.get resource namespace_ name) session.world).1 <;> rfl

end Answers

/-- What the cluster answers to a read of a resource. -/
def Controller.lookup {ω : Type} [World ω] (controller : Controller ω) (ref : ObjectRef)
    (world : ω) : Except Failure Value :=
  (World.cluster (.get controller.resource ref.namespace_ ref.name) world).1

/-- A document that is not to be deleted and holds the operator's finalizer. -/
structure Document.IsReady (doc : Document) : Prop where
  /-- It is not to be deleted. -/
  live : ∃ deletion, doc.deletionTimestamp = .ok deletion ∧ deletion.isBlank = true
  /-- It holds the finalizer. -/
  finalized : answer Document.ensureFinalizer doc = .ok false

namespace Controller

variable {ω : Type} [World ω] {controller : Controller ω}

theorem answer_fetch (controller : Controller ω)
    (grouped : controller.resource.group.isEmpty = false) (ref : ObjectRef)
    (session : Session ω) :
    answer (controller.fetch ref) session =
      match controller.lookup ref session.world with
      | .ok object => .ok (some (Cluster.documentOf object))
      | .error failure => if failure.isAbsent then .ok none else .error failure := by
  unfold fetch
  rw [answer_bind, answer_attempt, answer_read grouped, lookup]
  cases (World.cluster (.get controller.resource ref.namespace_ ref.name) session.world).1 with
  | ok object => rfl
  | error failure =>
      simp only [Except.map]
      split <;> rfl

/-- A document that is ready is left to the handler as it was asked for. -/
theorem answer_prepare_ready {desk : Desk ω} (ready : desk.document.IsReady) (type : EventType) :
    answer (prepare type) desk = .ok type := by
  obtain ⟨deletion, marked, unmarked⟩ := ready.live
  have going : isGoing desk = .ok false desk := by
    change (ofExcept desk.document.deletionTimestamp >>= fun deletion =>
      pure !deletion.isBlank : Reconcile ω Bool) desk = _
    rw [marked]
    exact congrArg (EStateM.Result.ok · desk) (by rw [unmarked]; rfl)
  have kept : answer (Desk.edit Document.ensureFinalizer) desk = .ok false := by
    rw [Desk.edit, answer_within, ready.finalized]
  unfold prepare
  rw [answer_bind, answer, final, going]
  dsimp only
  rw [Bool.not_false, if_pos rfl, answer_bind, kept]
  rfl

theorem answer_fetch_entering {event : Event} {s : ControlState ω} {found : Option Document}
    (fetched : ∀ session : Session ω, session.world = s.session.world →
      answer (controller.fetch event.ref) session = .ok found) :
    answer (inSession (controller.fetch event.ref)) (s.reporting (entering event)) = .ok found := by
  rw [inSession, answer_within]
  exact fetched _ rfl

/-- An event about a resource that is gone changes nothing but reports, and the count of failures. -/
theorem process_gone (controller : Controller ω) (event : Event) {s : ControlState (Noted ω)}
    (gone : ∀ session : Session (Noted ω), session.world = s.session.world →
      answer (controller.noted.fetch event.ref) session = .ok none) :
    (final (controller.noted.process event) s).queue = s.queue.forget event ∧
      (final (controller.noted.process event) s).session.world.calls = s.session.world.calls := by
  obtain ⟨judging, leaving, -, -, processed⟩ := controller.noted.final_process event s
  have fetched := answer_fetch_entering gone
  have succeeded : controller.noted.outcome event s = .ok () := by
    unfold outcome dispatch
    rw [answer_bind, fetched]
    rfl
  have ended_eq : controller.noted.ended event s =
      final (log .debug ("Resource " ++ event.ref.text ++ " no longer exists, dropping " ++
        event.type.text))
        (final (inSession (controller.noted.fetch event.ref)) (s.reporting (entering event))) := by
    unfold ended dispatch
    rw [final_bind, fetched]
  rw [processed, succeeded, ended_eq]
  exact ⟨congrArg (·.forget event) (queue_fetch controller event.ref _),
    calls_fetch controller event.ref _⟩

section Creating

variable {event : Event} {doc : Document}

theorem calls_carryOut (controller : Controller ω) (ready : doc.IsReady) (asks : event.type = .create)
    (s : ControlState (Noted ω)) :
    ∃ result,
      (final (controller.noted.carryOut event doc) s).session.world.calls =
        s.session.world.calls ++ [.acted .create result] := by
  have told : answer (prepare event.type) (Desk.mk s.session doc) = .ok event.type :=
    answer_prepare_ready ready event.type
  rcases controller.calls_carryOut_cases event doc s with
    ⟨failure, unprepared, -⟩ | ⟨call, prepared, noted⟩
  · rw [told] at unprepared
    contradiction
  · have type_eq : call.type = .create := by
      rw [← asks]
      exact Except.ok.inj (prepared.symm.trans told)
    obtain ⟨result, rfl⟩ := call.eq_acted_of_type type_eq (by simp)
    exact ⟨result, noted⟩

/-- An event that asks for the creation of an external resource is carried out when the resource is
found and ready. -/
theorem process_ready {s : ControlState (Noted ω)}
    (found : ∀ session : Session (Noted ω), session.world = s.session.world →
      answer (controller.noted.fetch event.ref) session = .ok (some doc))
    (ready : doc.IsReady) (asks : event.type = .create) :
    ∃ result,
      (final (controller.noted.process event) s).session.world.calls =
        s.session.world.calls ++ [.acted .create result] := by
  obtain ⟨judging, leaving, -, -, processed⟩ := controller.noted.final_process event s
  obtain ⟨result, created⟩ :=
    calls_carryOut controller ready asks
      (final (inSession (controller.noted.fetch event.ref)) (s.reporting (entering event)))
  have ended_eq : controller.noted.ended event s =
      final (controller.noted.carryOut event doc)
        (final (inSession (controller.noted.fetch event.ref)) (s.reporting (entering event))) := by
    unfold ended dispatch
    rw [final_bind, answer_fetch_entering found]
    rfl
  rw [← ended_eq, calls_fetch] at created
  rw [processed]
  exact ⟨result, (controller.settled event _ _).1.trans created⟩

end Creating

end Controller

/-- What the world outside may come to: a world in which all resources are gone, and one in which a
resource is found and ready. -/
structure Outlook {ω : Type} [World ω] (controller : Controller ω) (ref : ObjectRef)
    (gone live : ω) : Prop where
  /-- The resources of the controller are no part of the core group. -/
  grouped : controller.resource.group.isEmpty = false
  /-- In the one world all resources are gone. -/
  absent : ∀ x, ∃ reason, controller.lookup x gone = .error (.cluster (some 404) reason)
  /-- In the other world the resource is found and ready. -/
  ready : ∃ object, controller.lookup ref live = .ok object ∧ (Cluster.documentOf object).IsReady

namespace Outlook

variable {ω : Type} [World ω] {controller : Controller ω} {ref : ObjectRef} {gone live : ω}

theorem fetch_gone (outlook : Outlook controller ref gone live) (x : ObjectRef)
    {session : Session (Noted ω)} (moved : session.world.world = gone) :
    answer (controller.noted.fetch x) session = .ok none := by
  obtain ⟨reason, absent⟩ := outlook.absent x
  have looked : controller.noted.lookup x session.world = .error (.cluster (some 404) reason) := by
    rw [← absent, ← moved]
    rfl
  rw [controller.noted.answer_fetch outlook.grouped, looked]
  rfl

theorem fetch_live (outlook : Outlook controller ref gone live) :
    ∃ doc : Document, doc.IsReady ∧
      ∀ session : Session (Noted ω), session.world.world = live →
        answer (controller.noted.fetch ref) session = .ok (some doc) := by
  obtain ⟨object, found, ready⟩ := outlook.ready
  refine ⟨_, ready, fun session moved => ?_⟩
  have looked : controller.noted.lookup ref session.world = .ok object := by
    rw [← found, ← moved]
    rfl
  rw [controller.noted.answer_fetch outlook.grouped, looked]

end Outlook

end Reconciler
