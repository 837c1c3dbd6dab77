import Reconciler.Proofs.Controller.Classification
import Reconciler.Proofs.Controller.Repetition
import Reconciler.Proofs.Controller.Visits

/-!
# When an external resource is deleted

The handler is asked to delete while an event is processed whose live document is to be deleted, or
which asks for the deletion itself.  Such an event stems from a notification that showed the resource
to be deleted.  What it is carried out on is the document that is found when it is processed, and that
may be another one of the same name, which is not to be deleted.
-/

namespace Reconciler

open Document

namespace Controller

variable {ω : Type} [World ω] (controller : Controller ω) (event : Event)

/-- What the cluster shows of the resource when an event about it is processed. -/
def found (s : ControlState (Noted ω)) : Except Failure (Option Document) :=
  answer (inSession (controller.noted.fetch event.ref)) (s.reporting (entering event))

end Controller

/-! ## Deletions on their way -/

/-- Work of a controller puts no deletion of the external resource of a resource on its way. -/
def Control.OrdersNoDeletion {ω α : Type} (ref : ObjectRef) (act : Control (Noted ω) α) : Prop :=
  Proceeds (fun s : ControlState (Noted ω) => s.queue.pending (Event.asks .delete ref)) (· ≥ ·) act

/-- A notification says that a resource was modified, and is to be deleted. -/
structure Notification.Announces (ref : ObjectRef) (next : Notification) : Prop where
  /-- The resource was modified. -/
  modified : next.type = some "MODIFIED"
  /-- It is the resource that is shown. -/
  ref_eq : next.ref = ref
  /-- It is to be deleted. -/
  isGoing : next.IsGoing

namespace Control.OrdersNoDeletion

variable {ω : Type} {ref : ObjectRef}

theorem pending_le {α : Type} {act : Control (Noted ω) α} (orders : OrdersNoDeletion ref act)
    (s : ControlState (Noted ω)) :
    (final act s).queue.pending (Event.asks .delete ref) ≤
      s.queue.pending (Event.asks .delete ref) := by
  have steps := orders s
  rwa [Relation.reflTransGen_eq_self] at steps

theorem of_keeps_queue {α : Type} {act : Control (Noted ω) α}
    (kept : Keeps (fun s : ControlState (Noted ω) => s.queue) act) : OrdersNoDeletion ref act :=
  Keeps.proceeds fun s => congrArg (WorkQueue.pending (Event.asks .delete ref)) (kept s)

theorem stop (controller : Controller (Noted ω)) : OrdersNoDeletion ref controller.stop := by
  refine proceeds_bind (proceeds_bind (fun s => ?_) fun _ => of_keeps_queue ?_) fun _ =>
    of_keeps_queue fun _ => rfl
  · exact .single (s.queue.pending_close_le _)
  · refine keeps_bind keeps_get fun state => ?_
    dsimp only
    split
    · exact keeps_pure _
    · exact keeps_bind (fun _ => rfl) fun _ => keeps_pure _

variable [World ω]

theorem enqueue {type : EventType} {r : ObjectRef} (other : ¬(type = .delete ∧ r = ref)) :
    OrdersNoDeletion ref (Control.enqueue (ω := Noted ω) type r) := by
  refine proceeds_bind keeps_get.proceeds fun state => ?_
  split
  · intro s
    let event : Event := ⟨type, r, (World.freshId s.session.world).1⟩
    have added := s.queue.pending_add_le (Event.asks .delete ref) event
    rw [Bool.eq_false_iff.mpr fun asks => other (asks_iff.mp asks), Bool.toNat_false,
      Nat.add_zero] at added
    exact .single added
  · exact (keeps_pure _).proceeds

theorem resync : OrdersNoDeletion ref (Control.resync (ω := Noted ω)) := by
  refine proceeds_bind (of_keeps_queue fun _ => rfl) fun refs => ?_
  induction refs with
  | nil => exact (keeps_pure _).proceeds
  | cons r rest ih => exact proceeds_bind (enqueue (by simp)) fun _ => ih

theorem noticed {next : Notification} (unannounced : ¬next.Announces ref) :
    OrdersNoDeletion ref (next.noticed (ω := Noted ω)) := by
  have added (body : Value) : OrdersNoDeletion ref (Control.noticeAdded (ω := Noted ω) body) :=
    proceeds_bind (keeps_ofExcept _).proceeds fun _ =>
      proceeds_bind (of_keeps_queue fun _ => rfl) fun _ => enqueue (by simp)
  unfold Notification.noticed notice
  split
  · exact added _
  · exact added _
  next modified =>
    refine proceeds_bind (keeps_ofExcept _).proceeds fun current =>
      proceeds_bind keeps_get.proceeds fun state =>
        proceeds_bind (of_keeps_queue fun _ => rfl) fun _ =>
          proceeds_ofExcept_bind fun deletion stated => enqueue ?_
    rintro ⟨asked, rfl⟩
    refine unannounced ⟨modified, rfl, deletion, stated, ?_⟩
    unfold eventTypeFor at asked
    split at asked
    next going => simpa using going
    next => split at asked <;> (try split at asked) <;> contradiction
  · exact of_keeps_queue fun _ => rfl
  · exact of_keeps_queue fun _ => rfl

end Control.OrdersNoDeletion

namespace Controller

variable {ω : Type} {controller : Controller ω} {event : Event} {q q' : EventQueue}
  {calls : List HandlerCall} {outcome : Except Failure Unit}

/-- No deletion follows what was dispatched. -/
theorem Dispatched.deletions_le (dispatched : Dispatched controller event q calls q' outcome)
    (ref : ObjectRef) :
    q'.pending (Event.asks .delete ref) ≤ q.pending (Event.asks .delete ref) := by
  cases dispatched with
  | absent now id =>
      have added := q.pending_addAfter_le (Event.asks .delete ref) ⟨.create, event.ref, id⟩ now
        controller.options.createDelay
      rwa [asks_of_ne ref (by simp), Bool.toNat_false, Nat.add_zero] at added
  | differs failure id =>
      have added := q.pending_add_le (Event.asks .delete ref) ⟨.update, event.ref, id⟩
      rwa [asks_of_ne ref (by simp), Bool.toNat_false, Nat.add_zero] at added
  | uncalled | observed | acted => exact Nat.le_refl _

/-- A failed event comes again at most once. -/
theorem Settled.pending_le (settled : Settled event q outcome q') (picked : Event → Bool) :
    q'.pending picked ≤ q.pending picked + (picked event).toNat := by
  cases settled with
  | forgotten => exact Nat.le_add_right ..
  | retried failure now => exact q.pending_addRateLimited_le picked event now
  | uncounted => exact Nat.le_add_right ..

end Controller

namespace Shift

variable {ω : Type}

/-- The number of deletions of an external resource that are on their way: their events are delayed,
have come, or are held by a worker. -/
def deletions (ref : ObjectRef) (s : Shift ω) : Nat :=
  s.state.queue.pending (Event.asks .delete ref) + s.held.countP (Event.asks .delete ref)

variable [World ω]

/-- The shift after a notification. -/
def noticing (next : Notification) (s : Shift ω) : Shift ω :=
  { s with state := final next.noticed s.state }

variable {controller : Controller ω} {ref : ObjectRef} {s t : Shift ω} {past : List (Shift ω)}

/-- No step puts a deletion on its way but the notification that announces it. -/
theorem Step.deletions_le (step : Step controller s t) (sound : s.Sound) (ref : ObjectRef) :
    t.deletions ref ≤ s.deletions ref ∨
      ∃ next : Notification, next.Announces ref ∧ t = s.noticing next := by
  cases step with
  | occur state occurrence =>
      refine or_iff_not_imp_right.mpr fun unannounced => Nat.add_le_add_right ?_ _
      cases occurrence with
      | notice type body =>
          have ordersNone : Control.OrdersNoDeletion (ω := ω) ref (Notification.noticed ⟨type, body⟩) :=
            .noticed fun announces => unannounced ⟨_, announces, rfl⟩
          exact ordersNone.pending_le s.state
      | resync => exact Control.OrdersNoDeletion.resync.pending_le s.state
      | elsewhere session same => exact Nat.le_refl _
      | deliver => exact s.state.queue.pending_deliver_le _ _
      | stop => exact (Control.OrdersNoDeletion.stop controller.noted).pending_le s.state
  | take event handed =>
      have taken := WorkQueue.pending_get_le (asks_congr .delete ref) sound.consistent handed
      left
      change s.state.queue.get.2.pending _ + (s.held ++ [event]).countP _ ≤ _
      rw [WorkQueue.countP_concat_eq, deletions]
      omega
  | done front event rest holds =>
      exact .inl (Nat.le_of_eq (congrArg (· + _) (s.state.queue.pending_done _ event)))
  | process front event rest holds =>
      obtain ⟨q, outcome, dispatched, settled⟩ := callsOf_eq controller event s.state
      have dispatching := dispatched.deletions_le ref
      have settling := settled.pending_le (Event.asks .delete ref)
      left
      change (final (controller.noted.process event) s.state).queue.pending _ +
        (front ++ rest).countP _ ≤ _
      rw [deletions, holds, List.perm_middle.countP_eq, WorkQueue.countP_cons_eq]
      omega

/-- A state of a shift, and the states that it went through since the start. -/
inductive Traced (controller : Controller ω) : List (Shift ω) → Shift ω → Prop where
  /-- The start. -/
  | start (session : Session (Noted ω)) (limiter : RateLimiter Event Number) :
    Traced controller [] (start session limiter)
  /-- A step. -/
  | step {past : List (Shift ω)} {s t : Shift ω} (traced : Traced controller past s)
    (step : Step controller s t) : Traced controller (past ++ [s]) t

/-- From one of the states to the next, a notification announced the deletion of a resource. -/
def Announced (ref : ObjectRef) (states : List (Shift ω)) : Prop :=
  ∃ earlier s later, ∃ next : Notification,
    next.Announces ref ∧ states = earlier ++ s :: s.noticing next :: later

theorem Announced.concat {states : List (Shift ω)} (announced : Announced ref states)
    (s : Shift ω) : Announced ref (states ++ [s]) := by
  obtain ⟨earlier, u, later, next, announces, rfl⟩ := announced
  exact ⟨earlier, u, later ++ [s], next, announces, by simp⟩

theorem Traced.sound (traced : Traced controller past s) : s.Sound := by
  induction traced with
  | start session limiter => exact .start session limiter
  | step traced step ih => exact step.sound ih

/-- A deletion that is on its way was announced. -/
theorem Traced.announced (traced : Traced controller past s) (on_its_way : 0 < s.deletions ref) :
    Announced ref (past ++ [s]) := by
  induction traced with
  | start session limiter => exact absurd on_its_way (Nat.lt_irrefl 0)
  | @step past s t traced step ih =>
      rcases step.deletions_le traced.sound ref with deletions_le | ⟨next, announces, rfl⟩
      · exact (ih (Nat.lt_of_lt_of_le on_its_way deletions_le)).concat t
      · exact ⟨past, s, [], next, announces, by simp⟩

end Shift

end Reconciler
