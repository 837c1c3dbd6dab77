import Mathlib.Logic.Relation
import Reconciler.Proofs.Controller.Aside

/-!
# Shifts

A shift is a run of a controller with its workers: notifications come, the clock moves on, delayed
events arrive, and workers take events, process them and are done with them, in any order that the
queue allows.  The calls of the handler are kept on record, each under the resource of the event that
is processed.  All along, the workers have the events that the queue takes to be in processing.
-/

namespace Reconciler

/-- A controller with its workers at work. -/
structure Shift (ω : Type) where
  /-- The state of the controller, with the calls of the handler. -/
  state : ControlState (Noted ω)
  /-- The events that workers have taken and not processed yet. -/
  held : List Event
  /-- The events that workers have processed and are not done with yet. -/
  settled : List Event
  /-- The calls of the handler, each under the resource of the event that was processed. -/
  record : List (ObjectRef × HandlerCall)

namespace Shift

variable {ω : Type}

/-- The start of a shift. -/
def start (session : Session (Noted ω)) (limiter : RateLimiter Event Number) : Shift ω :=
  ⟨.start session limiter, [], [], []⟩

/-- The number of creations of an external resource that are on their way: their events are delayed,
have come, or are held by a worker. -/
def pending (ref : ObjectRef) (s : Shift ω) : Nat :=
  s.state.queue.pending (Event.asksCreation ref) + s.held.countP (Event.asksCreation ref)

variable [World ω]

/-- The calls of the handler while an event is processed. -/
def callsOf (controller : Controller ω) (event : Event) (s : ControlState (Noted ω)) :
    List HandlerCall :=
  (final (controller.noted.process event) s).session.world.calls.drop s.session.world.calls.length

/-- A step of a shift. -/
inductive Step (controller : Controller ω) (s : Shift ω) : Shift ω → Prop where
  /-- Something happens beside the workers. -/
  | occur (state : ControlState (Noted ω)) (occurrence : Occurrence controller s.state state) :
    Step controller s { s with state }
  /-- A worker takes an event. -/
  | take (event : Event) (handed : s.state.queue.get.1.item = some event) :
    Step controller s
      { s with state := final Controller.take s.state, held := s.held ++ [event] }
  /-- A worker processes the event that it has taken. -/
  | process (front : List Event) (event : Event) (rest : List Event)
    (holds : s.held = front ++ event :: rest) :
    Step controller s
      { state := final (controller.noted.process event) s.state
        held := front ++ rest
        settled := s.settled ++ [event]
        record := s.record ++ (callsOf controller event s.state).map (event.ref, ·) }
  /-- A worker is done with the event that it has processed. -/
  | done (front : List Event) (event : Event) (rest : List Event)
    (holds : s.settled = front ++ event :: rest) :
    Step controller s
      { s with
        state := final (Control.onQueue (·.done event)) s.state
        settled := front ++ rest }

/-- Some steps of a shift, one after the other. -/
def Run (controller : Controller ω) : Shift ω → Shift ω → Prop :=
  Relation.ReflTransGen (Step controller)

/-- A state of a shift that is reached from the start. -/
def Reached (controller : Controller ω) (s : Shift ω) : Prop :=
  ∃ session limiter, Run controller (start session limiter) s

end Shift

namespace Controller

variable {ω : Type} {controller : Controller ω} {event : Event} {q q' : EventQueue}
  {calls : List HandlerCall} {outcome : Except Failure Unit}

/-- Events are not handed out or done while one is processed. -/
theorem Dispatched.filling (dispatched : Dispatched controller event q calls q' outcome) :
    q'.processing = q.processing ∧ (q.Consistent → q'.Consistent) := by
  cases dispatched with
  | absent now id => exact q.filling (.addAfter now _ _) (by simp) (by simp)
  | differs failure id => exact q.filling (.add _) (by simp) (by simp)
  | uncalled | observed | acted => exact ⟨rfl, id⟩

theorem Settled.filling (settled : Settled event q outcome q') :
    q'.processing = q.processing ∧ (q.Consistent → q'.Consistent) := by
  cases settled with
  | forgotten => exact q.filling (.forget event) (by simp) (by simp)
  | retried failure now => exact q.filling (.addRateLimited now event) (by simp) (by simp)
  | uncounted => exact ⟨rfl, id⟩

end Controller

namespace Shift

/-- The events that workers have agree with the queue. -/
structure Sound {ω : Type} (s : Shift ω) : Prop where
  /-- The parts of the queue agree with each other. -/
  consistent : s.state.queue.Consistent
  /-- What workers have is being processed. -/
  in_flight : ∀ event ∈ s.held ++ s.settled, s.state.queue.processing.contains event = true
  /-- What is being processed is had by a worker. -/
  manned : ∀ event ∈ s.state.queue.processing, (s.held ++ s.settled).contains event = true
  /-- No two workers have the same event. -/
  apart : (s.held ++ s.settled).Pairwise fun a b => (a == b) = false

namespace Sound

variable {ω : Type} {s t : Shift ω}

theorem start (session : Session (Noted ω)) (limiter : RateLimiter Event Number) :
    Sound (start session limiter) :=
  ⟨.empty limiter, by simp [Shift.start],
    by simp [Shift.start, ControlState.start, WorkQueue.empty], by simp [Shift.start]⟩

/-- Workers have the same events as before, and these are still being processed. -/
theorem of_perm (sound : s.Sound) (same : (s.held ++ s.settled).Perm (t.held ++ t.settled))
    (filling : t.state.queue.processing = s.state.queue.processing ∧
      (s.state.queue.Consistent → t.state.queue.Consistent)) : t.Sound where
  consistent := filling.2 sound.consistent
  in_flight event member := by
    rw [filling.1]
    exact sound.in_flight event (same.mem_iff.mpr member)
  manned event member := by
    rw [filling.1] at member
    rw [← same.contains_eq]
    exact sound.manned event member
  apart := (same.pairwise_iff fun apart => BEq.symm_false apart).mp sound.apart

theorem take (sound : s.Sound) {event : Event}
    (handed : s.state.queue.get.1.item = some event) :
    Sound { s with state := final Controller.take s.state, held := s.held ++ [event] } := by
  obtain ⟨idle, processing_eq⟩ := sound.consistent.get_processing handed
  have others (x : Event) (member : x ∈ s.held ++ s.settled) : (x == event) = false := by
    refine Bool.eq_false_iff.mpr fun same => ?_
    rw [← List.contains_congr same, sound.in_flight x member] at idle
    contradiction
  have same : ((s.held ++ [event]) ++ s.settled).Perm ((s.held ++ s.settled) ++ [event]) := by
    rw [List.append_assoc, List.append_assoc]
    exact List.perm_append_comm.append_left _
  refine ⟨sound.consistent.get, fun x member => ?_, fun x member => ?_, ?_⟩
  · change s.state.queue.get.2.processing.contains x = true
    rw [processing_eq, List.contains_append]
    rcases List.mem_append.mp (same.mem_iff.mp member) with earlier | new
    · rw [sound.in_flight x earlier, Bool.true_or]
    · simp [List.mem_singleton.mp new]
  · change x ∈ s.state.queue.get.2.processing at member
    rw [processing_eq] at member
    rw [same.contains_eq, List.contains_append]
    rcases List.mem_append.mp member with earlier | new
    · rw [sound.manned x earlier, Bool.true_or]
    · simp [List.mem_singleton.mp new]
  · refine (same.pairwise_iff fun apart => BEq.symm_false apart).mpr ?_
    exact List.pairwise_append.mpr ⟨sound.apart, by simp, by simpa using others⟩

theorem done (sound : s.Sound) {front : List Event} {event : Event} {rest : List Event}
    (holds : s.settled = front ++ event :: rest) :
    Sound { s with
      state := final (Control.onQueue (·.done event)) s.state
      settled := front ++ rest } := by
  have running : s.state.queue.processing.contains event = true :=
    sound.in_flight event (by simp [holds])
  have moved : (s.held ++ s.settled).Perm (event :: (s.held ++ (front ++ rest))) := by
    rw [holds, ← List.append_assoc, ← List.append_assoc]
    exact List.perm_middle
  have apart := (moved.pairwise_iff fun apart => BEq.symm_false apart).mp sound.apart
  obtain ⟨others, apart⟩ := List.pairwise_cons.mp apart
  refine ⟨sound.consistent.done running, fun x member => ?_, fun x member => ?_, apart⟩
  · change (s.state.queue.done event).processing.contains x = true
    rw [WorkQueue.done_processing, WorkQueue.contains_erased]
    exact ⟨sound.in_flight x (moved.mem_iff.mpr (List.mem_cons_of_mem _ member)),
      BEq.symm_false (others x member)⟩
  · change x ∈ (s.state.queue.done event).processing at member
    rw [WorkQueue.done_processing, List.mem_filter] at member
    have had := sound.manned x member.1
    rw [moved.contains_eq, List.contains_cons, Bool.or_eq_true] at had
    exact had.resolve_left (by simpa using member.2)

end Sound

variable {ω : Type} [World ω] {controller : Controller ω} {s t : Shift ω}

theorem callsOf_eq (controller : Controller ω) (event : Event) (s : ControlState (Noted ω)) :
    ∃ q outcome,
      Controller.Dispatched controller event s.queue (callsOf controller event s) q outcome ∧
      Controller.Settled event q outcome (final (controller.noted.process event) s).queue := by
  obtain ⟨calls, q, outcome, noted, dispatched, settled⟩ := controller.processed event s
  have calls_eq : callsOf controller event s = calls := by
    rw [callsOf, noted, List.drop_left]
  rw [calls_eq]
  exact ⟨q, outcome, dispatched, settled⟩

theorem Step.sound (step : Step controller s t) (sound : s.Sound) : t.Sound := by
  cases step with
  | occur state occurrence =>
      exact sound.of_perm (.refl _) ⟨occurrence.aside.processing_eq, occurrence.aside.consistent⟩
  | take event handed => exact sound.take handed
  | process front event rest holds =>
      obtain ⟨q, outcome, dispatched, settled⟩ := callsOf_eq controller event s.state
      refine sound.of_perm ?_ ⟨settled.filling.1.trans dispatched.filling.1,
        fun consistent => settled.filling.2 (dispatched.filling.2 consistent)⟩
      rw [holds, ← List.append_assoc]
      exact (List.perm_middle.append_right _).trans (List.perm_append_singleton event _).symm
  | done front event rest holds => exact sound.done holds

end Shift

end Reconciler
