import Reconciler.Proofs.Controller.Processing
import Reconciler.Proofs.Reconciliation.Parts

/-!
# Calls of the handler, noted

A controller is followed by what its handler is asked and answers: the handler notes each call beside
the world outside, and works as before.  The dispatch of an event calls the handler at most once, and
what it answers decides which event follows.
-/

namespace Reconciler

/-- A call of a handler, with its answer. -/
inductive HandlerCall where
  /-- The external resource was looked for. -/
  | observed (answer : Except Failure Bool)
  /-- The external resource was acted on. -/
  | acted (type : EventType) (answer : Except Failure Unit)

/-- The event type that a call of the handler carries out. -/
def HandlerCall.type : HandlerCall → EventType
  | .observed _ => .observe
  | .acted type _ => type

theorem HandlerCall.eq_acted_of_type (call : HandlerCall) {type : EventType} (carries : call.type = type)
    (other : type ≠ .observe) : ∃ answer, call = .acted type answer := by
  cases call with
  | observed answer => exact absurd carries.symm other
  | acted done answer => exact ⟨answer, by rw [← carries]; rfl⟩

/-- A world outside, and the calls of the handler so far. -/
structure Noted (ω : Type) where
  /-- The world outside. -/
  world : ω
  /-- The calls of the handler. -/
  calls : List HandlerCall

instance {ω : Type} [World ω] : World (Noted ω) where
  cluster call noted :=
    ((World.cluster call noted.world).1, { noted with world := (World.cluster call noted.world).2 })
  wire call noted :=
    ((World.wire call noted.world).1, { noted with world := (World.wire call noted.world).2 })
  chart call noted :=
    ((World.chart call noted.world).1, { noted with world := (World.chart call noted.world).2 })
  file noted := World.file noted.world
  wallClock noted := World.wallClock noted.world
  steadyClock noted := World.steadyClock noted.world
  freshId noted :=
    ((World.freshId noted.world).1, { noted with world := (World.freshId noted.world).2 })

/-- The session in another world. -/
def Session.inWorld {ω ω' : Type} (session : Session ω) (world : ω') : Session ω' :=
  ⟨world, session.telemetry, session.means, session.descriptions, session.descriptor⟩

section Noting

variable {ω α : Type} (note : Except Failure α → HandlerCall) (act : Reconcile ω α)

/-- Work on a document, which is noted with its answer. -/
def noting : Reconcile (Noted ω) α := do
  let outcome ← attempt (within
    (fun desk => ⟨desk.session.inWorld desk.session.world.world, desk.document⟩)
    (fun bare desk =>
      ⟨bare.session.inWorld ⟨bare.session.world, desk.session.world.calls⟩, bare.document⟩) act)
  modify fun desk =>
    { desk with
      session :=
        desk.session.inWorld
          ⟨desk.session.world.world, desk.session.world.calls ++ [note outcome]⟩ }
  ofExcept outcome

theorem calls_noting (desk : Desk (Noted ω)) :
    (final (noting note act) desk).session.world.calls =
      desk.session.world.calls ++ [note (answer (noting note act) desk)] := by
  unfold noting
  simp only [final_bind, answer_bind, answer_attempt, final_attempt, answer_modify, final_modify,
    final_ofExcept, answer_ofExcept, final_within]
  rfl

end Noting

/-- The handler that notes its calls. -/
def Handler.noted {ω : Type} (handler : Handler ω) : Handler (Noted ω) where
  observe := noting .observed handler.observe
  create := noting (.acted .create) handler.create
  update := noting (.acted .update) handler.update
  delete := noting (.acted .delete) handler.delete

/-- The controller whose handler notes its calls. -/
def Controller.noted {ω : Type} (controller : Controller ω) : Controller (Noted ω) :=
  ⟨controller.handler.noted, controller.resource, controller.recorder, controller.options⟩

/-- Only the handler notes calls. -/
theorem detached_calls {ω : Type} [World ω] :
    Detached fun session : Session (Noted ω) => session.world.calls where
  called _ _ := rfl
  identified _ := rfl
  reported _ _ := rfl

/-- Work on a document that asks nothing beyond the cluster does not show in a view of sessions that is
detached. -/
theorem Detached.keeps_done {ω α γ : Type} [World ω] {view : Session ω → γ}
    (detached : Detached view) {act : Reconcile ω α}
    (done : Reconcile.Done ⟨true, false, false, true⟩ act) :
    Keeps (fun desk : Desk ω => view desk.session) act := by
  refine done.keeps fun _ _ part => ?_
  cases part with
  | inSession made => exact keeps_inSession (detached.keeps_made made)
  | current => exact keeps_bind keeps_get fun _ => keeps_pure _
  | edit allowed change => exact keeps_within_apart fun _ _ => rfl

namespace Controller

variable {ω : Type} (controller : Controller ω)

/-- What is left to do after a call of the handler. -/
def advice : HandlerCall → Except Failure FollowUp
  | .observed (.ok true) => .ok .nothing
  | .observed (.ok false) => .ok .create
  | .observed (.error failure) =>
    if failure.isNotFound then .ok (.update failure) else .error failure
  | .acted _ answer => answer.map fun _ => .nothing

/-- The handler is called once to carry out an event type, and what it answers says what is left to do. -/
theorem act_calls (left : EventType) (desk : Desk (Noted ω)) :
    ∃ call : HandlerCall, call.type = left ∧ answer (controller.noted.act left) desk = advice call ∧
      (final (controller.noted.act left) desk).session.world.calls =
        desk.session.world.calls ++ [call] := by
  have acted (type : EventType) (act : Reconcile ω Unit) :
      let call : HandlerCall := .acted type (answer (noting (.acted type) act) desk)
      let acting : Reconcile (Noted ω) FollowUp := do
        noting (.acted type) act
        pure .nothing
      answer acting desk = advice call ∧
        (final acting desk).session.world.calls = desk.session.world.calls ++ [call] := by
    dsimp only
    rw [← calls_noting, answer_bind, final_bind, advice]
    cases answer (noting (.acted type) act) desk <;> exact ⟨rfl, rfl⟩
  cases left with
  | observe =>
      have noted : (final controller.noted.handler.observe desk).session.world.calls =
          desk.session.world.calls ++ [.observed (answer controller.noted.handler.observe desk)] :=
        calls_noting .observed controller.handler.observe desk
      refine ⟨.observed (answer controller.noted.handler.observe desk), rfl, ?_⟩
      unfold act
      rw [← noted, answer_bind, final_bind, answer_attempt, final_attempt]
      cases answer controller.noted.handler.observe desk with
      | ok isThere => cases isThere <;> exact ⟨rfl, rfl⟩
      | error failure =>
          simp only [advice]
          split <;> exact ⟨rfl, rfl⟩
  | create => exact ⟨_, rfl, acted .create controller.handler.create⟩
  | update => exact ⟨_, rfl, acted .update controller.handler.update⟩
  | delete => exact ⟨_, rfl, acted .delete controller.handler.delete⟩

/-- What the handler is asked for an event, and what is to be done after it. -/
inductive Advised (type : EventType) : List HandlerCall → Except Failure FollowUp → Prop where
  /-- The document cannot be made ready, and the handler is not called. -/
  | unready (failure : Failure) : Advised type [] (.error failure)
  /-- The external resource is as desired. -/
  | settled : Advised type [.observed (.ok true)] (.ok .nothing)
  /-- The external resource does not exist. -/
  | absent : Advised type [.observed (.ok false)] (.ok .create)
  /-- The external resource differs from the desired state. -/
  | differs (failure : Failure) : Advised type [.observed (.error failure)] (.ok (.update failure))
  /-- The external resource cannot be observed. -/
  | hidden (failure : Failure) : Advised type [.observed (.error failure)] (.error failure)
  /-- The external resource is acted on; it is created only on an event that asks for it. -/
  | acted (done : EventType) (asked : done = .create → type = .create)
    (answer : Except Failure Unit) :
    Advised type [.acted done answer] (answer.map fun _ => .nothing)

/-- A call of the handler advises what is left to do after it. -/
theorem advised_of_call {type : EventType} {call : HandlerCall}
    (asked : call.type = .create → type = .create) : Advised type [call] (advice call) := by
  rcases call with (failure | isThere) | ⟨done, answer⟩
  · simp only [advice]
    split
    · exact .differs failure
    · exact .hidden failure
  · cases isThere with
    | true => exact .settled
    | false => exact .absent
  · exact .acted done asked answer

theorem advised_act {type left : EventType} (asked : left = .create → type = .create)
    (desk : Desk (Noted ω)) :
    ∃ calls,
      (final (controller.noted.act left) desk).session.world.calls =
        desk.session.world.calls ++ calls ∧
      Advised type calls (answer (controller.noted.act left) desk) := by
  obtain ⟨call, rfl, answered, noted⟩ := controller.act_calls left desk
  exact ⟨[call], noted, answered ▸ advised_of_call asked⟩

section Desk

variable {α : Type} (document : Document) (act : Reconcile ω α) (s : ControlState ω)

theorem answer_atDesk :
    answer (Control.atDesk document act) s = answer act ⟨s.session, document⟩ := by
  simp only [Control.atDesk, inSession, answer_within]
  rfl

theorem final_atDesk :
    final (Control.atDesk document act) s =
      { s with session := (final act ⟨s.session, document⟩).session } := by
  simp only [Control.atDesk, inSession, final_within]
  rfl

end Desk

section Dispatching

variable [World ω]

theorem keeps_calls_prepare (type : EventType) :
    Keeps (fun desk : Desk (Noted ω) => desk.session.world.calls) (prepare type) :=
  detached_calls.keeps_done (done_prepare rfl rfl type)

/-- Nothing but a deletion is put in the place of what an event asks for. -/
theorem answer_prepare {type left : EventType} {desk : Desk (Noted ω)}
    (prepared : answer (prepare type) desk = .ok left) : left = .delete ∨ left = type := by
  have cleaned {asked : EventType} {desk : Desk (Noted ω)}
      (answered : answer (do
        Desk.edit (modify Document.withoutTransientMetadata)
        pure asked) desk = .ok left) : left = asked := by
    obtain ⟨_, -, answered⟩ := ok_of_answer_bind answered
    exact (Except.ok.inj answered).symm
  obtain ⟨going, -, prepared⟩ := ok_of_answer_bind prepared
  cases going with
  | true => exact .inl (cleaned prepared)
  | false =>
      obtain ⟨changed, -, prepared⟩ := ok_of_answer_bind prepared
      cases changed with
      | true =>
          obtain ⟨_, -, prepared⟩ := ok_of_answer_bind prepared
          exact .inr (cleaned prepared)
      | false => exact .inr (cleaned prepared)

theorem advised (type : EventType) (desk : Desk (Noted ω)) :
    let advice : Reconcile (Noted ω) FollowUp := do controller.noted.act (← prepare type)
    ∃ calls, (final advice desk).session.world.calls = desk.session.world.calls ++ calls ∧
      Advised type calls (answer advice desk) := by
  have kept :
      (final (prepare type) desk).session.world.calls = desk.session.world.calls :=
    keeps_calls_prepare type desk
  dsimp only
  rw [answer_bind, final_bind]
  cases prepared : answer (prepare type) desk with
  | ok left =>
      have asked : left = .create → type = .create := by
        rintro rfl
        exact ((answer_prepare prepared).resolve_left (by simp)).symm
      obtain ⟨calls, noted, advised⟩ := controller.advised_act asked (final (prepare type) desk)
      rw [kept] at noted
      exact ⟨calls, noted, advised⟩
  | error failure => exact ⟨[], kept.trans (List.append_nil _).symm, .unready failure⟩

/-- What the handler is asked in a dispatch, what becomes of the queue, and how the dispatch ends. -/
inductive Dispatched (controller : Controller ω) (event : Event) (q : EventQueue) :
    List HandlerCall → EventQueue → Except Failure Unit → Prop where
  /-- The handler is not called. -/
  | uncalled (outcome : Except Failure Unit) : Dispatched controller event q [] q outcome
  /-- The external resource does not exist, and its creation is delayed. -/
  | absent (now : Number) (id : String) :
    Dispatched controller event q [.observed (.ok false)]
      (q.addAfter now ⟨.create, event.ref, id⟩ controller.options.createDelay) (.ok ())
  /-- The external resource differs, and its update is added. -/
  | differs (failure : Failure) (id : String) :
    Dispatched controller event q [.observed (.error failure)] (q.add ⟨.update, event.ref, id⟩)
      (.ok ())
  /-- The external resource is as desired, or it cannot be observed. -/
  | observed (answer : Except Failure Bool) (outcome : Except Failure Unit)
    (other : answer ≠ .ok false) : Dispatched controller event q [.observed answer] q outcome
  /-- The external resource is acted on; it is created only on an event that asks for it. -/
  | acted (done : EventType) (asked : done = .create → event.type = .create)
    (answer : Except Failure Unit) : Dispatched controller event q [.acted done answer] q answer

theorem calls_follow (ref : ObjectRef) (next : FollowUp) (s : ControlState (Noted ω)) :
    (final (controller.noted.follow ref next) s).session.world.calls = s.session.world.calls := by
  cases next <;> rfl

/-- An event on a live resource. -/
def carryOut (controller : Controller ω) (event : Event) (doc : Document) : Control ω Unit := do
  let next ← Control.atDesk doc do controller.act (← prepare event.type)
  controller.follow event.ref next

/-- An event on a live resource calls the handler once to carry out what is left to do, when the document
can be made ready, and not at all otherwise. -/
theorem calls_carryOut_cases (event : Event) (doc : Document) (s : ControlState (Noted ω)) :
    (∃ failure, answer (prepare event.type) (Desk.mk s.session doc) = .error failure ∧
      (final (controller.noted.carryOut event doc) s).session.world.calls = s.session.world.calls) ∨
    ∃ call : HandlerCall, answer (prepare event.type) (Desk.mk s.session doc) = .ok call.type ∧
      (final (controller.noted.carryOut event doc) s).session.world.calls =
        s.session.world.calls ++ [call] := by
  have kept : (final (prepare event.type) (Desk.mk s.session doc)).session.world.calls =
      s.session.world.calls := keeps_calls_prepare event.type _
  unfold carryOut
  rw [view_final_bind (fun t : ControlState (Noted ω) => t.session.world.calls)
    (fun next => controller.calls_follow event.ref next), final_atDesk]
  dsimp only
  rw [final_bind]
  cases prepared : answer (prepare event.type) (Desk.mk s.session doc) with
  | error failure => exact .inl ⟨failure, rfl, kept⟩
  | ok left =>
      obtain ⟨call, rfl, -, noted⟩ :=
        controller.act_calls left (final (prepare event.type) (Desk.mk s.session doc))
      exact .inr ⟨call, rfl, kept ▸ noted⟩

theorem dispatched_live (event : Event) (doc : Document) (s : ControlState (Noted ω)) :
    ∃ calls,
      (final (controller.noted.carryOut event doc) s).session.world.calls =
        s.session.world.calls ++ calls ∧
      Dispatched controller event s.queue calls
        (final (controller.noted.carryOut event doc) s).queue
        (answer (controller.noted.carryOut event doc) s) := by
  obtain ⟨calls, noted, advised⟩ := controller.advised event.type ⟨s.session, doc⟩
  dsimp only at noted
  refine ⟨calls, ?_⟩
  unfold carryOut
  rw [answer_bind, final_bind, answer_atDesk, final_atDesk, ← noted]
  generalize answer _ _ = advice at advised ⊢
  cases advised with
  | unready failure => exact ⟨rfl, .uncalled _⟩
  | settled => exact ⟨rfl, .observed _ _ (by simp)⟩
  | absent => exact ⟨calls_follow .., .absent _ _⟩
  | differs failure => exact ⟨calls_follow .., .differs failure _⟩
  | hidden failure => exact ⟨rfl, .observed _ _ (by simp)⟩
  | acted done asked answer =>
      cases answer with
      | ok _ => exact ⟨rfl, .acted done asked _⟩
      | error failure => exact ⟨rfl, .acted done asked _⟩

theorem calls_fetch (ref : ObjectRef) (s : ControlState (Noted ω)) :
    (final (inSession (controller.noted.fetch ref)) s).session.world.calls =
      s.session.world.calls :=
  keeps_inSession (detached_calls.keeps_made (controller.noted.made_fetch ref)) s

theorem queue_fetch (ref : ObjectRef) (s : ControlState (Noted ω)) :
    (final (inSession (controller.noted.fetch ref)) s).queue = s.queue := by
  rw [inSession, final_within]
  rfl

theorem dispatched (event : Event) (s : ControlState (Noted ω)) :
    ∃ calls,
      (final (controller.noted.dispatch event) s).session.world.calls =
        s.session.world.calls ++ calls ∧
      Dispatched controller event s.queue calls (final (controller.noted.dispatch event) s).queue
        (answer (controller.noted.dispatch event) s) := by
  unfold dispatch
  rw [answer_bind, final_bind, ← calls_fetch controller event.ref s,
    ← queue_fetch controller event.ref s]
  cases answer (inSession (controller.noted.fetch event.ref)) s with
  | error failure => exact ⟨[], (List.append_nil _).symm, .uncalled _⟩
  | ok found =>
      cases found with
      | none => exact ⟨[], (List.append_nil _).symm, .uncalled _⟩
      | some doc =>
          exact controller.dispatched_live event doc
            (final (inSession (controller.noted.fetch event.ref)) s)

/-- What becomes of the queue when an event is settled. -/
inductive Settled (event : Event) (q : EventQueue) : Except Failure Unit → EventQueue → Prop where
  /-- The failures of the event are forgotten: it has succeeded, or is given up. -/
  | forgotten (outcome : Except Failure Unit) : Settled event q outcome (q.forget event)
  /-- The event has failed, and is added again as the limiter says. -/
  | retried (failure : Failure) (now : Number) :
    Settled event q (.error failure) (q.addRateLimited now event).2
  /-- The event has failed, and the limiter does not count. -/
  | uncounted (failure : Failure) : Settled event q (.error failure) q

theorem settled (event : Event) (outcome : Except Failure Unit) (s : ControlState (Noted ω)) :
    (final (controller.noted.settle event (failure? outcome)) s).session.world.calls =
        s.session.world.calls ∧
      Settled event s.queue outcome
        (final (controller.noted.settle event (failure? outcome)) s).queue := by
  cases outcome with
  | ok _ => exact ⟨rfl, .forgotten _⟩
  | error failure =>
      cases counted : s.queue.requeues event with
      | error fault =>
          have left : final (controller.noted.settle event (some failure)) s = s := by
            unfold settle
            simp [final_bind, counted]
          rw [failure?, left]
          exact ⟨rfl, .uncounted failure⟩
      | ok retries =>
          rw [failure?, controller.noted.final_settle_failed event counted]
          split
          · obtain ⟨text, retried⟩ := controller.noted.final_retry event retries failure s
            rw [retried]
            exact ⟨rfl, .retried failure _⟩
          · obtain ⟨text, dropped⟩ := controller.noted.final_drop event retries failure s
            rw [dropped]
            exact ⟨detached_calls.keeps_made (controller.noted.made_markFailed event.ref rfl failure) _,
              .forgotten _⟩

/-- The handler is called at most once while an event is processed, and the queue changes in the
dispatch and then in the settling. -/
theorem processed (event : Event) (s : ControlState (Noted ω)) :
    ∃ calls q outcome,
      (final (controller.noted.process event) s).session.world.calls =
        s.session.world.calls ++ calls ∧
      Dispatched controller event s.queue calls q outcome ∧
      Settled event q outcome (final (controller.noted.process event) s).queue := by
  obtain ⟨judging, leaving, -, -, processed⟩ := controller.noted.final_process event s
  obtain ⟨calls, noted, dispatched⟩ := controller.dispatched event (s.reporting (entering event))
  obtain ⟨kept, settled⟩ :=
    controller.settled event (controller.noted.outcome event s)
      ((controller.noted.ended event s).reporting judging)
  rw [processed]
  exact ⟨calls, _, _, kept.trans noted, dispatched, settled⟩

end Dispatching

end Controller

end Reconciler
