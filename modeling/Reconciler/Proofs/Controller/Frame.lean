import Reconciler.Controller.Running
import Reconciler.Controller.Watch
import Reconciler.Proofs.Controller.Processing

/-!
# What the work of a controller leaves alone

Workers and rounds over all resources change the session and the queue of a controller, and nothing
besides; its end changes that it accepts events as well.
-/

namespace Reconciler

variable {ω : Type}

/-- A view of the state shows neither the session nor the queue. -/
def BesideWork {γ : Type} (view : ControlState ω → γ) : Prop :=
  ∀ session queue s, view { s with session, queue } = view s

namespace BesideWork

variable {γ : Type} {view : ControlState ω → γ}

theorem keeps_inSession (beside : BesideWork view) {α : Type} (work : Work ω α) :
    Keeps view (inSession work) :=
  keeps_inSession_apart fun session s => beside session s.queue s

theorem keeps_report (beside : BesideWork view) (change : Telemetry → Telemetry) :
    Keeps view (report change) :=
  keeps_report_apart (fun session s => beside session s.queue s) change

theorem keeps_onQueue (beside : BesideWork view) (change : EventQueue → EventQueue) :
    Keeps view (Control.onQueue change) :=
  keeps_modify fun s => beside s.session (change s.queue) s

variable (controller : Controller ω) (event : Event)

/-- A controller that is stopped accepts no events, and changes the session and the queue besides. -/
theorem final_stop (beside : BesideWork view) (s : ControlState ω) :
    view (final controller.stop s) = view { s with isAccepting := false } := by
  unfold Controller.stop Controller.close log
  rw [bind_assoc, final_bind, answer_modify, final_modify]
  trans view { s with queue := s.queue.close, isAccepting := false }
  · refine keeps_bind (keeps_bind keeps_get fun t => ?_) (fun _ => beside.keeps_report _) _
    dsimp only
    split
    · exact keeps_pure _
    · exact keeps_bind (beside.keeps_report _) fun _ => keeps_pure _
  · exact beside s.session s.queue.close { s with isAccepting := false }

variable [World ω]

theorem keeps_settle (beside : BesideWork view) (failure : Option Failure) :
    Keeps view (controller.settle event failure) := by
  unfold Controller.settle
  cases failure with
  | none => exact beside.keeps_onQueue _
  | some failure =>
      refine keeps_bind keeps_get fun s => keeps_bind (keeps_ofExcept _) fun retries => ?_
      split
      · unfold Controller.retry log count
        refine keeps_bind (beside.keeps_report _) fun _ => keeps_bind (beside.keeps_report _) fun _ => ?_
        intro t
        rw [Controller.final_addRateLimited]
        exact beside t.session _ t
      · unfold Controller.drop log count
        exact keeps_bind (beside.keeps_report _) fun _ => keeps_bind (beside.keeps_onQueue _) fun _ =>
          keeps_bind (beside.keeps_report _) fun _ => beside.keeps_inSession _

theorem keeps_process (beside : BesideWork view) : Keeps view (controller.process event) := by
  have apart (session : Session ω) (s : ControlState ω) : view { s with session } = view s :=
    beside session s.queue s
  unfold Controller.process setAttribute setStatus inTrace
  refine keeps_inScope_apart apart _ (keeps_inSpan_apart apart _ _ _ ?_)
  refine keeps_bind (beside.keeps_report _) fun _ => keeps_bind (keeps_attempt ?_) fun outcome => ?_
  · exact controller.keeps_dispatch event apart (fun _ t => beside t.session _ t)
      fun _ _ _ t => beside t.session _ t
  · cases outcome with
    | ok _ => exact keeps_bind (beside.keeps_report _) fun _ => beside.keeps_settle controller _ _
    | error _ => exact keeps_bind (beside.keeps_report _) fun _ => beside.keeps_settle controller _ _

theorem keeps_handle (beside : BesideWork view) : Keeps view (controller.handle event) := by
  unfold Controller.handle log
  refine keeps_bind (keeps_attempt (beside.keeps_process controller event)) fun outcome => ?_
  cases outcome with
  | ok _ => exact beside.keeps_onQueue _
  | error _ => exact keeps_bind (beside.keeps_report _) fun _ => beside.keeps_onQueue _

/-- Workers that take and handle events change the session and the queue alone. -/
theorem keeps_workOff (beside : BesideWork view) (bound : Nat) :
    Keeps view (controller.workOff bound) := by
  induction bound with
  | zero => exact keeps_pure _
  | succ bound ih =>
      have taken : Keeps view (Controller.take (ω := ω)) := fun s => beside s.session _ s
      refine keeps_bind taken fun handout => ?_
      cases handout.item with
      | none => exact keeps_pure _
      | some event => exact keeps_bind (beside.keeps_handle controller event) fun _ => ih

theorem keeps_enqueue (beside : BesideWork view) (type : EventType) (ref : ObjectRef) :
    Keeps view (Control.enqueue type ref) := by
  unfold Control.enqueue Control.newEvent log
  refine keeps_bind keeps_get fun t => ?_
  split
  · exact keeps_bind (keeps_bind (beside.keeps_inSession _) fun _ => keeps_pure _) fun event =>
      keeps_bind (beside.keeps_report _) fun _ => beside.keeps_onQueue _
  · exact keeps_pure _

/-- A round over all known resources changes the session and the queue alone. -/
theorem keeps_resync (beside : BesideWork view) : Keeps view (Control.resync (ω := ω)) := by
  have enqueued (refs : List ObjectRef) : Keeps view (refs.forM (Control.enqueue (ω := ω) .observe)) := by
    induction refs with
    | nil => exact keeps_pure _
    | cons ref rest ih => exact keeps_bind (beside.keeps_enqueue .observe ref) fun _ => ih
  exact keeps_bind (fun s => rfl) enqueued

end BesideWork

end Reconciler
