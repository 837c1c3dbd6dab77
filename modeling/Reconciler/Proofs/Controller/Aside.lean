import Reconciler.Controller.Running
import Reconciler.Proofs.Controller.Noted
import Reconciler.Proofs.WorkQueue.History
import Reconciler.Proofs.WorkQueue.Pending

/-!
# What happens beside the workers

Notifications, rounds over the known resources, the passing of time and the end of a controller do not
call the handler, and hand no event out.  They may put events on their way, but none that asks for the
creation of an external resource: such events come from observations alone.
-/

namespace Reconciler

/-- The event asks for something that is to be done for a resource. -/
def Event.asks (type : EventType) (ref : ObjectRef) (event : Event) : Bool :=
  event.type == type && event.ref == ref

theorem asks_iff {type : EventType} {ref : ObjectRef} {event : Event} :
    event.asks type ref = true ↔ event.type = type ∧ event.ref = ref := by
  simp [Event.asks]

theorem asks_of_ne {type : EventType} (ref : ObjectRef) {event : Event} (other : event.type ≠ type) :
    event.asks type ref = false := by
  simp [Event.asks, other]

theorem asks_congr (type : EventType) (ref : ObjectRef) (x y : Event) (same : (x == y) = true) :
    x.asks type ref = y.asks type ref := by
  simp only [BEq.beq, Bool.and_eq_true, decide_eq_true_eq] at same
  rw [Event.asks, Event.asks, same.1, same.2]

/-- The event asks for the creation of the external resource of a resource. -/
def Event.asksCreation (ref : ObjectRef) (event : Event) : Bool :=
  event.type == .create && event.ref == ref

theorem asksCreation_iff {ref : ObjectRef} {event : Event} :
    event.asksCreation ref = true ↔ event.type = .create ∧ event.ref = ref :=
  asks_iff

theorem asksCreation_of_ne (ref : ObjectRef) {event : Event} (other : event.type ≠ .create) :
    event.asksCreation ref = false :=
  asks_of_ne ref other

theorem asksCreation_congr (ref : ObjectRef) (x y : Event) (same : (x == y) = true) :
    x.asksCreation ref = y.asksCreation ref :=
  asks_congr .create ref x y same

/-- From a state to a later one, the handler is not called, no event is handed out or done, and no
creation is put on its way. -/
structure Aside {ω : Type} (s t : ControlState (Noted ω)) : Prop where
  /-- The handler is not called. -/
  calls_eq : t.session.world.calls = s.session.world.calls
  /-- No event is handed out or done. -/
  processing_eq : t.queue.processing = s.queue.processing
  /-- The parts of the queue keep agreeing with each other. -/
  consistent : s.queue.Consistent → t.queue.Consistent
  /-- No creation is put on its way. -/
  pending_le : ∀ ref,
    t.queue.pending (Event.asksCreation ref) ≤ s.queue.pending (Event.asksCreation ref)

namespace Aside

variable {ω : Type} {s t u : ControlState (Noted ω)}

theorem refl (s : ControlState (Noted ω)) : Aside s s :=
  ⟨rfl, rfl, id, fun _ => Nat.le_refl _⟩

theorem trans (first : Aside s t) (second : Aside t u) : Aside s u where
  calls_eq := second.calls_eq.trans first.calls_eq
  processing_eq := second.processing_eq.trans first.processing_eq
  consistent before := second.consistent (first.consistent before)
  pending_le ref := Nat.le_trans (second.pending_le ref) (first.pending_le ref)

/-- The queue is not touched. -/
theorem of_queue_eq (calls_eq : t.session.world.calls = s.session.world.calls)
    (queue_eq : t.queue = s.queue) : Aside s t := by
  refine ⟨calls_eq, ?_, ?_, ?_⟩ <;> rw [queue_eq]
  · exact id
  · exact fun _ => Nat.le_refl _

/-- An operation on the queue that hands out and releases nothing, and puts no creation on its way. -/
theorem of_operation (operation : WorkQueue.Operation Event Number)
    (calls_eq : t.session.world.calls = s.session.world.calls) (not_get : operation ≠ .get)
    (not_done : ∀ item, operation ≠ .done item) (queue_eq : t.queue = s.queue.apply operation)
    (pending_le : ∀ ref, (s.queue.apply operation).pending (Event.asksCreation ref) ≤
      s.queue.pending (Event.asksCreation ref)) : Aside s t := by
  obtain ⟨processing_eq, consistent⟩ := s.queue.filling operation not_get not_done
  refine ⟨calls_eq, ?_, ?_, ?_⟩ <;> rw [queue_eq]
  · exact processing_eq
  · exact consistent
  · exact pending_le

end Aside

/-- Work of a controller in which the handler is not called, no event is handed out or done, and no
creation is put on its way. -/
def Control.IsAside {ω α : Type} (act : Control (Noted ω) α) : Prop :=
  ∀ s, Aside s (final act s)

namespace Control.IsAside

variable {ω α β : Type} {act : Control (Noted ω) α} {next : α → Control (Noted ω) β}

theorem bind (first : IsAside act) (second : ∀ a, IsAside (next a)) : IsAside (act >>= next) := by
  intro s
  rw [final_bind]
  cases answer act s with
  | ok a => exact (first s).trans (second a _)
  | error failure => exact first s

theorem pure (a : α) : IsAside (Pure.pure a : Control (Noted ω) α) :=
  Aside.refl

theorem get : IsAside (MonadState.get : Control (Noted ω) (ControlState (Noted ω))) :=
  Aside.refl

theorem ofExcept (outcome : Except Failure α) :
    IsAside (ofExcept outcome : Control (Noted ω) α) := by
  intro s
  rw [final_ofExcept]
  exact Aside.refl s

theorem onKnown (change : List (ObjectRef × Snapshot) → List (ObjectRef × Snapshot)) :
    IsAside (Control.onKnown (ω := Noted ω) change) :=
  fun _ => .of_queue_eq rfl rfl

theorem log (level : Level) (text : String) : IsAside (log level text : Control (Noted ω) Unit) :=
  fun _ => .of_queue_eq rfl rfl

variable [World ω]

theorem enqueue {type : EventType} (other : type ≠ .create) (ref : ObjectRef) :
    IsAside (Control.enqueue (ω := Noted ω) type ref) := by
  refine bind get fun state => ?_
  split
  · intro s
    let event : Event := ⟨type, ref, (World.freshId s.session.world).1⟩
    refine .of_operation (.add event) rfl (by simp) (by simp) rfl fun ref => ?_
    have added := s.queue.pending_add_le (Event.asksCreation ref) event
    rw [asksCreation_of_ne ref other, Bool.toNat_false, Nat.add_zero] at added
    exact added
  · exact pure _

theorem noticeAdded (body : Value) : IsAside (Control.noticeAdded (ω := Noted ω) body) :=
  bind (ofExcept _) fun _ => bind (onKnown _) fun _ => enqueue (by simp) _

theorem noticeModified (body : Value) : IsAside (Control.noticeModified (ω := Noted ω) body) := by
  refine bind (ofExcept _) fun current => bind get fun state => bind (onKnown _) fun _ =>
    bind (ofExcept _) fun deletion => enqueue ?_ _
  unfold eventTypeFor
  split
  · simp
  · split
    · split <;> simp
    · simp

theorem notice (type : Option String) (body : Value) :
    IsAside (Control.notice (ω := Noted ω) type body) := by
  unfold Control.notice
  split
  · exact noticeAdded body
  · exact noticeAdded body
  · exact noticeModified body
  · exact onKnown _
  · exact log _ _

theorem resync : IsAside (Control.resync (ω := Noted ω)) := by
  refine bind (bind get fun _ => pure _) fun refs => ?_
  induction refs with
  | nil => exact pure _
  | cons ref refs ih => exact bind (enqueue (by simp) ref) fun _ => ih

theorem deliverDue : IsAside (Control.deliverDue (ω := Noted ω)) :=
  fun s => .of_operation (.advance (World.steadyClock s.session.world)) rfl (by simp)
    (by simp) rfl fun _ => s.queue.pending_deliver_le _ _

omit [World ω] in
theorem close : IsAside (Controller.close (ω := Noted ω)) := by
  refine bind (fun s => ?_) fun _ => bind get fun state => ?_
  · exact .of_operation .close rfl (by simp) (by simp) rfl fun _ =>
      s.queue.pending_close_le _
  · dsimp only
    split
    · exact pure _
    · exact bind (log _ _) fun _ => pure _

omit [World ω] in
theorem stop (controller : Controller (Noted ω)) : IsAside controller.stop :=
  bind close fun _ => log _ _

end Control.IsAside

/-- What happens to a controller beside its workers. -/
inductive Occurrence {ω : Type} [World ω] (controller : Controller ω) (s : ControlState (Noted ω)) :
    ControlState (Noted ω) → Prop where
  /-- A notification comes. -/
  | notice (type : Option String) (body : Value) :
    Occurrence controller s (final (Control.notice type body) s)
  /-- All known resources are to be observed again. -/
  | resync : Occurrence controller s (final Control.resync s)
  /-- The world outside moves on, and its clock. -/
  | elsewhere (session : Session (Noted ω)) (same : session.world.calls = s.session.world.calls) :
    Occurrence controller s { s with session }
  /-- The delayed events arrive that are due. -/
  | deliver : Occurrence controller s (final Control.deliverDue s)
  /-- The controller is stopped; its workers work on. -/
  | stop : Occurrence controller s (final controller.noted.stop s)

theorem Occurrence.aside {ω : Type} [World ω] {controller : Controller ω}
    {s t : ControlState (Noted ω)} (occurrence : Occurrence controller s t) : Aside s t := by
  cases occurrence with
  | notice type body => exact Control.IsAside.notice type body s
  | resync => exact Control.IsAside.resync s
  | elsewhere session same => exact .of_queue_eq same rfl
  | deliver => exact Control.IsAside.deliverDue s
  | stop => exact Control.IsAside.stop controller.noted s

end Reconciler
