import Reconciler.Proofs.Controller.Creation
import Reconciler.Proofs.Controller.Outlook

/-!
# When an external resource is created again

An external resource is created again, without being found absent in between, when a creation of it is
still on its way, and only then.  What is ahead of that creation in the queue can be dropped without a
call of the handler, as happens while the resources are gone; then nothing stands against it.
-/

namespace Reconciler

namespace Shift

variable {ω : Type}

/-- The shift in another world outside. -/
def moved (world : ω) (s : Shift ω) : Shift ω :=
  { s with
    state :=
      { s.state with
        session := s.state.session.inWorld ⟨world, s.state.session.world.calls⟩ } }

variable [World ω] {controller : Controller ω} {ref : ObjectRef} {gone live : ω} {s : Shift ω}

theorem step_moved (controller : Controller ω) (world : ω) (s : Shift ω) :
    Step controller s (s.moved world) :=
  .occur _ (.elsewhere _ rfl)

/-- The resource is created by some run that goes on from a state, and nothing else is done before. -/
def CanCreate (controller : Controller ω) (ref : ObjectRef) (s : Shift ω) : Prop :=
  ∃ t result, Run controller s t ∧ t.record = s.record ++ [(ref, .acted .create result)]

theorem CanCreate.of_run {t : Shift ω} (run : Run controller s t) (record_eq : t.record = s.record)
    (later : CanCreate controller ref t) : CanCreate controller ref s := by
  obtain ⟨u, result, going_on, created⟩ := later
  exact ⟨u, result, Relation.ReflTransGen.trans run going_on, by rw [created, record_eq]⟩

/-- A worker that holds an event which asks for the creation can carry it out. -/
theorem canCreate_of_held (outlook : Outlook controller ref gone live) {front : List Event}
    {event : Event} {rest : List Event} (holds : s.held = front ++ event :: rest)
    (asks : event.asksCreation ref = true) : CanCreate controller ref s := by
  obtain ⟨type_eq, rfl⟩ := asksCreation_iff.mp asks
  obtain ⟨doc, ready, fetched⟩ := outlook.fetch_live
  have step : Step controller (s.moved live) _ := .process front event rest holds
  obtain ⟨result, created⟩ :=
    Controller.process_ready (s := (s.moved live).state)
      (fun session same => fetched session (congrArg Noted.world same)) ready type_eq
  refine ⟨_, result, (Relation.ReflTransGen.single (step_moved controller live s)).tail step, ?_⟩
  change s.record ++ (callsOf controller event (s.moved live).state).map _ = _
  rw [callsOf, created, List.drop_left]
  rfl

/-- A worker that holds an event can process it while the resources are gone. -/
theorem processed_gone (outlook : Outlook controller ref gone live) {front : List Event}
    {event : Event} {rest : List Event} (holds : s.held = front ++ event :: rest) :
    ∃ t, Run controller s t ∧ t.record = s.record ∧ t.held = front ++ rest ∧
      t.settled = s.settled ++ [event] ∧ t.state.queue = s.state.queue.forget event := by
  obtain ⟨queue_eq, calls_eq⟩ :=
    Controller.process_gone controller event (s := (s.moved gone).state)
      fun session same => outlook.fetch_gone event.ref (congrArg Noted.world same)
  have step : Step controller (s.moved gone) _ := .process front event rest holds
  refine ⟨_, (Relation.ReflTransGen.single (step_moved controller gone s)).tail step, ?_, rfl, rfl,
    queue_eq⟩
  change s.record ++ (callsOf controller event (s.moved gone).state).map _ = _
  rw [callsOf, calls_eq, List.drop_length, List.map_nil, List.append_nil]

/-- An event at the head of the queue can be dropped while the resources are gone. -/
theorem dropped_gone (outlook : Outlook controller ref gone live) (sound : s.Sound) {event : Event}
    (handed : s.state.queue.get.1.item = some event) :
    ∃ t front rest, Run controller s t ∧ t.record = s.record ∧ t.Sound ∧
      s.state.queue.queue = front ++ event :: rest ∧ t.state.queue.queue = front ++ rest ∧
      ∀ x ∈ t.state.queue.processing, x ∈ s.state.queue.processing := by
  let taken : Shift ω :=
    { s with state := final Controller.take s.state, held := s.held ++ [event] }
  have taking : Step controller s taken := .take event handed
  have holds : taken.held = s.held ++ event :: [] := rfl
  obtain ⟨u, processing, record_eq, -, settled_eq, queue_eq⟩ := processed_gone outlook holds
  have finishing : Step controller u _ := .done s.settled event [] settled_eq
  obtain ⟨front, rest, split, left, kept⟩ := sound.consistent.handed_and_done handed
  have run := (Relation.ReflTransGen.head taking processing).tail finishing
  refine ⟨_, front, rest, run, record_eq, (Run.conserves run sound).1, split, ?_, ?_⟩
  · change (u.state.queue.done event).queue = _
    rw [queue_eq, WorkQueue.done_forget]
    exact left
  · change ∀ x ∈ (u.state.queue.done event).processing, _
    rw [queue_eq, WorkQueue.done_forget]
    exact kept

/-- A creation that is queued can be carried out when no event of its resource is being processed. -/
theorem canCreate_of_queued (outlook : Outlook controller ref gone live) (sound : s.Sound)
    (idle : ∀ x ∈ s.state.queue.processing, x.ref ≠ ref)
    (queued : ∃ event ∈ s.state.queue.queue, event.asksCreation ref = true) :
    CanCreate controller ref s := by
  obtain ⟨bound, bounded⟩ : ∃ bound, s.state.queue.queue.length ≤ bound := ⟨_, Nat.le_refl _⟩
  induction bound generalizing s with
  | zero =>
      obtain ⟨event, member, -⟩ := queued
      rw [List.eq_nil_of_length_eq_zero (Nat.le_zero.mp bounded)] at member
      contradiction
  | succ bound ih =>
      obtain ⟨event, member, asks⟩ := queued
      have free : s.state.queue.isBusy event = false := by
        refine Bool.eq_false_iff.mpr fun busy => ?_
        obtain ⟨x, running, same⟩ := (sound.consistent.busy_iff event.ref).mp busy
        have same_ref : x.ref = event.ref := by simpa [Keyed.key] using same
        exact idle x running (same_ref.trans (asksCreation_iff.mp asks).2)
      obtain ⟨first, handed⟩ := WorkQueue.exists_handed member free
      cases first_asks : first.asksCreation ref with
      | true =>
          have taking : Step controller s _ := .take first handed
          exact .of_run (.single taking) rfl (canCreate_of_held outlook rfl first_asks)
      | false =>
          obtain ⟨t, front, rest, run, record_eq, t_sound, split, left, kept⟩ :=
            dropped_gone outlook sound handed
          refine .of_run run record_eq (ih t_sound (fun x running => idle x (kept x running))
            ⟨event, ?_, asks⟩ ?_)
          · have other : event ≠ first := by
              rintro rfl
              rw [asks] at first_asks
              contradiction
            rw [split] at member
            rw [left]
            simpa [other] using member
          · rw [split, List.length_append, List.length_cons] at bounded
            rw [left, List.length_append]
            omega

/-- Once an event is done, no event of its resource is being processed. -/
theorem idle_of_done {q : EventQueue} (consistent : q.Consistent) {event : Event}
    (running : q.processing.contains event = true) :
    ∀ x ∈ (q.done event).processing, x.ref ≠ event.ref := by
  intro x member same_ref
  have apart := consistent.key_ne_of_done running x member
  simp only [Keyed.key, beq_eq_false_iff_ne] at apart
  exact apart same_ref

/-- While the resources are gone, the events of a resource that workers have can be done. -/
theorem freed (outlook : Outlook controller ref gone live) (sound : s.Sound) :
    ∃ t, Run controller s t ∧ t.record = s.record ∧ t.Sound ∧
      (∀ x ∈ t.state.queue.processing, x.ref ≠ ref) ∧
      t.state.queue.dirty = s.state.queue.dirty ∧ t.state.queue.waiting = s.state.queue.waiting ∧
      t.state.queue.closed = s.state.queue.closed := by
  by_cases busy : ∃ x ∈ s.state.queue.processing, x.ref = ref
  · obtain ⟨x, running, rfl⟩ := busy
    obtain ⟨event, had, same⟩ := List.contains_iff_exists_mem_beq.mp (sound.manned x running)
    have event_running := sound.in_flight event had
    have ref_eq : x.ref = event.ref := by
      simpa [Keyed.key] using LawfulKeyed.key_beq same
    rw [ref_eq]
    rcases List.mem_append.mp had with held | settled
    · obtain ⟨front, rest, holds⟩ := List.append_of_mem held
      obtain ⟨u, run, record_eq, -, settled_eq, queue_eq⟩ := processed_gone outlook holds
      have finishing : Step controller u _ := .done s.settled event [] settled_eq
      have run := run.tail finishing
      refine ⟨_, run, record_eq, (Run.conserves run sound).1, ?_⟩
      change (∀ x ∈ (u.state.queue.done event).processing, _) ∧
        (u.state.queue.done event).dirty = _ ∧ (u.state.queue.done event).waiting = _ ∧
        (u.state.queue.done event).closed = _
      rw [queue_eq]
      exact ⟨idle_of_done (sound.consistent.with_frame _ _ _) event_running,
        WorkQueue.done_frame (s.state.queue.forget event) event⟩
    · obtain ⟨front, rest, holds⟩ := List.append_of_mem settled
      have finishing : Step controller s _ := .done front event rest holds
      exact ⟨_, .single finishing, rfl, finishing.sound sound,
        idle_of_done sound.consistent event_running, WorkQueue.done_frame _ event⟩
  · exact ⟨s, .refl, rfl, sound, fun x running same => busy ⟨x, running, same⟩, rfl, rfl, rfl⟩

/-- A creation that has come can be carried out. -/
theorem canCreate_of_dirty (outlook : Outlook controller ref gone live) (sound : s.Sound)
    (idle : ∀ x ∈ s.state.queue.processing, x.ref ≠ ref) {event : Event}
    (come : event ∈ s.state.queue.dirty) (asks : event.asksCreation ref = true) :
    CanCreate controller ref s := by
  have creates {x : Event} (same : (event == x) = true) : x.asksCreation ref = true := by
    rw [← asksCreation_congr ref event x same, asks]
  rcases sound.consistent.dirty_held event come with queued | running
  · obtain ⟨x, member, same⟩ := List.contains_iff_exists_mem_beq.mp queued
    exact canCreate_of_queued outlook sound idle ⟨x, member, creates same⟩
  · obtain ⟨x, member, same⟩ := List.contains_iff_exists_mem_beq.mp running
    exact absurd (asksCreation_iff.mp (creates same)).2 (idle x member)

/-- Each creation that is on its way can be carried out, whatever became of the external resource
meanwhile, when the delayed events come due before the controller is stopped. -/
theorem canCreate_of_pending (outlook : Outlook controller ref gone live) (sound : s.Sound)
    (running : s.state.queue.closed = false) {late : ω}
    (due : ∀ delayed ∈ s.state.queue.waiting,
      Quantity.atMost delayed.due (World.steadyClock late) = true)
    (on_its_way : 0 < s.pending ref) : CanCreate controller ref s := by
  by_cases holds : ∃ event ∈ s.held, event.asksCreation ref = true
  · obtain ⟨event, held, asks⟩ := holds
    obtain ⟨front, rest, split⟩ := List.append_of_mem held
    exact canCreate_of_held outlook split asks
  have none_held : s.held.countP (Event.asksCreation ref) = 0 :=
    List.countP_eq_zero.mpr fun event held asks => holds ⟨event, held, asks⟩
  rw [pending, none_held, Nat.add_zero, WorkQueue.pending] at on_its_way
  obtain ⟨t, run, record_eq, t_sound, idle, dirty_eq, waiting_eq, closed_eq⟩ := freed outlook sound
  refine .of_run run record_eq ?_
  by_cases come : ∃ event ∈ s.state.queue.dirty, event.asksCreation ref = true
  · obtain ⟨event, member, asks⟩ := come
    exact canCreate_of_dirty outlook t_sound idle (dirty_eq ▸ member) asks
  · have none_come : s.state.queue.dirty.countP (Event.asksCreation ref) = 0 :=
      List.countP_eq_zero.mpr fun event member asks => come ⟨event, member, asks⟩
    rw [none_come, Nat.add_zero] at on_its_way
    obtain ⟨delayed, waits, asks⟩ := List.countP_pos_iff.mp on_its_way
    have moving := step_moved controller late t
    have delivering : Step controller (t.moved late) _ := .occur _ .deliver
    have due_later : ∀ entry ∈ t.state.queue.waiting,
        Quantity.atMost entry.due (World.steadyClock late) = true := waiting_eq ▸ due
    have come := WorkQueue.deliver_dirty_of_due (closed_eq.trans running) due_later (waiting_eq ▸ waits)
    obtain ⟨event, member, same⟩ := List.contains_iff_exists_mem_beq.mp come
    have aside := Control.IsAside.deliverDue (t.moved late).state
    refine .of_run ((Relation.ReflTransGen.single moving).tail delivering) rfl
      (canCreate_of_dirty outlook (delivering.sound (moving.sound t_sound)) ?_ member ?_)
    · change ∀ x ∈ (final Control.deliverDue (t.moved late).state).queue.processing, _
      rw [aside.processing_eq]
      exact idle
    · rw [← asksCreation_congr ref delayed.item event same, asks]

/-- From a state on, the creations of an external resource stay behind the observations of its absence
and the creations that are on their way.  Where none is on its way, each creation follows an
observation of absence; where one is, it can be carried out without any, when the delayed events come
due before the controller is stopped. -/
theorem created_on_absence_or_pending (reached : Reached controller s) (ref : ObjectRef) :
    (∀ t, Run controller s t → ∃ between, t.record = s.record ++ between ∧
      ∀ earlier result later, between = earlier ++ (ref, .acted .create result) :: later →
        creations ref earlier < s.pending ref + absences ref earlier ∧
        (s.pending ref = 0 → (ref, .observed (.ok false)) ∈ earlier)) ∧
    ∀ gone live late : ω, Outlook controller ref gone live → s.state.queue.closed = false →
      (∀ delayed ∈ s.state.queue.waiting,
        Quantity.atMost delayed.due (World.steadyClock late) = true) →
      0 < s.pending ref → CanCreate controller ref s := by
  obtain ⟨session, limiter, before⟩ := reached
  obtain ⟨sound, -⟩ := Run.conserves before (.start session limiter)
  refine ⟨fun t run => ?_, fun gone live late outlook running due on_its_way =>
    canCreate_of_pending outlook sound running due on_its_way⟩
  obtain ⟨-, between, record_eq, -, earned⟩ := Run.conserves run sound
  refine ⟨between, record_eq, fun earlier result later split => ?_⟩
  have paid := earned ref earlier result later split
  refine ⟨paid, fun none_pending => ?_⟩
  have found : 0 < absences ref earlier := by omega
  obtain ⟨⟨r, call⟩, member, is_absence⟩ := List.countP_pos_iff.mp found
  simp only [Bool.and_eq_true, beq_iff_eq, HandlerCall.findsAbsent_iff] at is_absence
  obtain ⟨rfl, rfl⟩ := is_absence
  exact member

/-! ## A creation that comes too late -/

/-- After an external resource was created, it is not created again before it was found absent. -/
def CreatedOnce (controller : Controller ω) : Prop :=
  ∀ s t ref past between earlier result later,
    Reached controller s → s.record = past ++ [(ref, .acted .create (.ok ()))] →
    Run controller s t → t.record = s.record ++ between →
    between = earlier ++ (ref, .acted .create result) :: later →
    (ref, .observed (.ok false)) ∈ earlier

/-- The shift after a worker has taken an event, has processed it, and is done with it. -/
def worked (controller : Controller ω) (event : Event) (s : Shift ω) : Shift ω :=
  { s with
    state :=
      final (Control.onQueue (·.done event))
        (final (controller.noted.process event) (final Controller.take s.state))
    record :=
      s.record ++ (callsOf controller event (final Controller.take s.state)).map (event.ref, ·) }

theorem run_worked {event : Event} (handed : s.state.queue.get.1.item = some event) :
    Run controller s (s.worked controller event) := by
  let taken : Shift ω :=
    { s with state := final Controller.take s.state, held := s.held ++ [event] }
  let processed : Shift ω :=
    { state := final (controller.noted.process event) taken.state
      held := s.held ++ []
      settled := s.settled ++ [event]
      record := s.record ++ (callsOf controller event taken.state).map (event.ref, ·) }
  have taking : Step controller s taken := .take event handed
  have processing : Step controller taken processed := .process s.held event [] rfl
  have finishing : Step controller processed _ := .done s.settled event [] rfl
  have run := ((Relation.ReflTransGen.single taking).tail processing).tail finishing
  simp only [processed, taken, List.append_nil] at run
  exact run

end Shift

/-- A resource with a list of finalizers. -/
def demoObject (finalizers : List Value) : Value :=
  .ofFields
    [("apiVersion", .text "sample.example.org/v1alpha1"), ("kind", .text "Repo"),
      ("metadata", .ofFields
        [("finalizers", .list finalizers), ("generation", .int 1), ("name", .text "demo"),
          ("namespace", .text "default")]),
      ("spec", .ofFields [("name", .text "demo")])]

/-- The resource as it was listed first. -/
def demoBare : Value :=
  demoObject []

/-- The resource with the operator's finalizer. -/
def demoFinalized : Value :=
  demoObject [.text Document.finalizer]

/-- The reference to the resource. -/
def demoRef : ObjectRef :=
  ⟨"sample.example.org/v1alpha1", "Repo", "demo", "default"⟩

/-- A controller whose backend does not show at once what was created. -/
def demoController : Controller Lone where
  handler := ⟨pure false, pure (), pure (), pure ()⟩
  resource := ⟨"sample.example.org", "v1alpha1", "repos"⟩
  recorder := .standard false
  options := { ControlOptions.standard with createDelay := .whole 3 }

namespace Shift

/-- The world in which the resource holds the operator's finalizer, at a time. -/
def demoWorld (now : Int) : Lone :=
  ⟨.ok demoFinalized, .whole now⟩

/-- The shift at the start. -/
def demoStart : Shift Lone :=
  .start ((Lone.session (.ok demoBare) (.whole 0)).inWorld ⟨⟨.ok demoBare, .whole 0⟩, []⟩)
    (.standard (.whole 0))

/-- The shift after a notification about the resource. -/
def notified (type : String) (object : Value) (s : Shift Lone) : Shift Lone :=
  { s with state := final (Control.notice (some type) object) s.state }

/-- The shift after the events arrived that are due at a time. -/
def delivered (now : Int) (s : Shift Lone) : Shift Lone :=
  { s with state := final Control.deliverDue (s.moved (demoWorld now)).state }

/-- The resource is added.  Its external resource is found absent, and the operator writes its
finalizer. -/
def demoObserved : Shift Lone :=
  (demoStart.notified "ADDED" demoBare).worked demoController ⟨.observe, demoRef, "0"⟩

/-- That write is notified, and the external resource is found absent again. -/
def demoObservedAgain : Shift Lone :=
  ((demoObserved.notified "MODIFIED" demoFinalized).delivered 1).worked demoController
    ⟨.observe, demoRef, "0"⟩

/-- The external resource is created, as the first observation asks. -/
def demoCreated : Shift Lone :=
  (demoObservedAgain.delivered 3).worked demoController ⟨.create, demoRef, "0"⟩

/-- The external resource is created, as the second observation asks. -/
def demoCreatedAgain : Shift Lone :=
  (demoCreated.delivered 4).worked demoController ⟨.create, demoRef, "0"⟩

theorem run_notified (type : String) (object : Value) (s : Shift Lone) :
    Run demoController s (s.notified type object) :=
  .single (.occur _ (.notice (some type) object))

theorem run_delivered (now : Int) (s : Shift Lone) : Run demoController s (s.delivered now) :=
  (Relation.ReflTransGen.single (step_moved demoController (demoWorld now) s)).tail
    (.occur _ .deliver)

theorem run_demoCreated : Run demoController demoStart demoCreated := by
  have observed : Run demoController demoStart demoObserved :=
    (run_notified "ADDED" demoBare demoStart).trans (run_worked rfl)
  have notified : Run demoController demoObserved (demoObserved.notified "MODIFIED" demoFinalized) :=
    run_notified "MODIFIED" demoFinalized demoObserved
  have observed_again : Run demoController demoObserved demoObservedAgain :=
    (notified.trans (run_delivered 1 _)).trans (run_worked rfl)
  have created : Run demoController demoObservedAgain demoCreated :=
    (run_delivered 3 demoObservedAgain).trans (run_worked rfl)
  exact (observed.trans observed_again).trans created

set_option maxRecDepth 4000 in
theorem run_demoCreatedAgain : Run demoController demoCreated demoCreatedAgain :=
  (run_delivered 4 demoCreated).trans (run_worked rfl)

theorem record_demoCreated :
    demoCreated.record =
      [(demoRef, .observed (.ok false)), (demoRef, .observed (.ok false))] ++
        [(demoRef, .acted .create (.ok ()))] := rfl

set_option maxRecDepth 4000 in
theorem record_demoCreatedAgain :
    demoCreatedAgain.record = demoCreated.record ++ [(demoRef, .acted .create (.ok ()))] := rfl

/-- Both observations put a creation on its way, and both are carried out. -/
theorem not_createdOnce :
    Quantity.below Quantity.zero demoController.options.createDelay = true ∧
      ¬CreatedOnce demoController := by
  refine ⟨by decide, fun created_once => ?_⟩
  have found := created_once demoCreated demoCreatedAgain demoRef _ _ [] _ []
    ⟨_, _, run_demoCreated⟩ record_demoCreated run_demoCreatedAgain record_demoCreatedAgain rfl
  contradiction

theorem demo_outlook :
    Outlook demoController demoRef ⟨.error (.cluster (some 404) "Not Found"), .whole 9⟩
      (demoWorld 9) where
  grouped := by decide
  absent _ := ⟨_, rfl⟩
  ready := ⟨demoFinalized, rfl, ⟨_, rfl, rfl⟩, rfl⟩

set_option maxRecDepth 4000 in
/-- At the start no creation is on its way, and when the external resource was created, one still is. -/
theorem created_on_absence_or_pending_demo :
    demoStart.pending demoRef = 0 ∧
      (demoRef, .observed (.ok false)) ∈ demoCreated.record.take 2 ∧
      demoCreated.pending demoRef = 1 ∧ CanCreate demoController demoRef demoCreated := by
  have at_start : Reached demoController demoStart := ⟨_, _, .refl⟩
  have at_created : Reached demoController demoCreated := ⟨_, _, run_demoCreated⟩
  obtain ⟨between, record_eq, earned⟩ :=
    (created_on_absence_or_pending at_start demoRef).1 demoCreated run_demoCreated
  have split : between = demoCreated.record.take 2 ++ (demoRef, .acted .create (.ok ())) :: [] := by
    rw [← List.nil_append between]
    exact record_eq.symm
  refine ⟨rfl, (earned _ _ _ split).2 rfl, rfl, ?_⟩
  exact (created_on_absence_or_pending at_created demoRef).2 _ _ (demoWorld 9) demo_outlook rfl
    (by decide) (by decide)

end Shift

end Reconciler
