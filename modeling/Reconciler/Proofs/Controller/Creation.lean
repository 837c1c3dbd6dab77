import Reconciler.Proofs.Controller.Shift

/-!
# How often an external resource is created

Each creation uses up one event that asks for it, and only an observation that finds the external
resource absent puts such an event on its way.  So the creations never outnumber the observations of
absence, and those that were on their way before; a creation that is still on its way when another one
succeeds is carried out all the same.
-/

namespace Reconciler

/-- The external resource was created. -/
def HandlerCall.creates : HandlerCall → Bool
  | .acted .create (.ok _) => true
  | _ => false

/-- The external resource was found absent. -/
def HandlerCall.findsAbsent : HandlerCall → Bool
  | .observed (.ok false) => true
  | _ => false

theorem HandlerCall.findsAbsent_iff (call : HandlerCall) :
    call.findsAbsent = true ↔ call = .observed (.ok false) := by
  rcases call with (_ | (_ | _)) | _ <;> simp [findsAbsent]

/-- The number of times that the external resource of a resource was created. -/
def creations (ref : ObjectRef) (record : List (ObjectRef × HandlerCall)) : Nat :=
  record.countP fun entry => entry.1 == ref && entry.2.creates

/-- The number of times that the external resource of a resource was found absent. -/
def absences (ref : ObjectRef) (record : List (ObjectRef × HandlerCall)) : Nat :=
  record.countP fun entry => entry.1 == ref && entry.2.findsAbsent

@[simp]
theorem creations_append (ref : ObjectRef) (first second : List (ObjectRef × HandlerCall)) :
    creations ref (first ++ second) = creations ref first + creations ref second :=
  List.countP_append

@[simp]
theorem absences_append (ref : ObjectRef) (first second : List (ObjectRef × HandlerCall)) :
    absences ref (first ++ second) = absences ref first + absences ref second :=
  List.countP_append

@[simp]
theorem creations_singleton (ref : ObjectRef) (entry : ObjectRef × HandlerCall) :
    creations ref [entry] = (entry.1 == ref && entry.2.creates).toNat := by
  exact (WorkQueue.countP_cons_eq _ entry []).trans (Nat.zero_add _)

@[simp]
theorem absences_singleton (ref : ObjectRef) (entry : ObjectRef × HandlerCall) :
    absences ref [entry] = (entry.1 == ref && entry.2.findsAbsent).toNat := by
  exact (WorkQueue.countP_cons_eq _ entry []).trans (Nat.zero_add _)

namespace Controller

variable {ω : Type} {controller : Controller ω} {event : Event} {q q' : EventQueue}
  {calls : List HandlerCall} {outcome : Except Failure Unit}

/-- The creations that a failed event puts on its way when it is tried again. -/
def retriable (ref : ObjectRef) (event : Event) : Except Failure Unit → Nat
  | .ok _ => 0
  | .error _ => (event.asksCreation ref).toNat

theorem retriable_le (ref : ObjectRef) (event : Event) (outcome : Except Failure Unit) :
    retriable ref event outcome ≤ (event.asksCreation ref).toNat := by
  cases outcome with
  | ok _ => exact Nat.zero_le _
  | error _ => exact Nat.le_refl _

/-- A dispatch pays for a creation with its event, and for a creation that it puts on its way with an
observation of absence. -/
theorem Dispatched.conserves (dispatched : Dispatched controller event q calls q' outcome)
    (ref : ObjectRef) :
    creations ref (calls.map (event.ref, ·)) + q'.pending (Event.asksCreation ref) +
        retriable ref event outcome ≤
      q.pending (Event.asksCreation ref) + (event.asksCreation ref).toNat +
        absences ref (calls.map (event.ref, ·)) := by
  have retried := retriable_le ref event outcome
  cases dispatched with
  | uncalled _ => simpa [creations, absences] using retried
  | absent now id =>
      have added := q.pending_addAfter_le (Event.asksCreation ref) ⟨.create, event.ref, id⟩ now
        controller.options.createDelay
      rw [show Event.asksCreation ref ⟨.create, event.ref, id⟩ = (event.ref == ref) from rfl] at added
      simp only [List.map_cons, List.map_nil, creations_singleton, absences_singleton,
        HandlerCall.creates, HandlerCall.findsAbsent, Bool.and_false, Bool.and_true, Bool.toNat_false,
        retriable]
      omega
  | differs failure id =>
      have added := q.pending_add_le (Event.asksCreation ref) ⟨.update, event.ref, id⟩
      rw [asksCreation_of_ne ref (by simp), Bool.toNat_false] at added
      simp only [List.map_cons, List.map_nil, creations_singleton, HandlerCall.creates,
        Bool.and_false, Bool.toNat_false, retriable]
      omega
  | observed _ _ other =>
      simp only [List.map_cons, List.map_nil, creations_singleton, HandlerCall.creates,
        Bool.and_false, Bool.toNat_false]
      omega
  | acted done asked _ =>
      cases outcome with
      | error failure =>
          simp only [List.map_cons, List.map_nil, creations_singleton, HandlerCall.creates,
            Bool.and_false, Bool.toNat_false]
          omega
      | ok success =>
          have paid : (event.ref == ref && (HandlerCall.acted done (.ok success)).creates).toNat ≤
              (event.asksCreation ref).toNat := by
            cases done with
            | create => simp [HandlerCall.creates, Event.asksCreation, asked rfl]
            | observe | update | delete => simp [HandlerCall.creates]
          simp only [List.map_cons, List.map_nil, creations_singleton, absences_singleton,
            retriable]
          omega

/-- The handler is asked to create only on an event that asks for it. -/
theorem Dispatched.asksCreation (dispatched : Dispatched controller event q calls q' outcome)
    {ref : ObjectRef} {result : Except Failure Unit}
    (created : (ref, .acted .create result) ∈ calls.map (event.ref, ·)) :
    event.asksCreation ref = true := by
  cases dispatched with
  | acted done asked _ =>
      simp only [List.map_cons, List.map_nil, List.mem_singleton, Prod.mk.injEq,
        HandlerCall.acted.injEq] at created
      obtain ⟨rfl, rfl, -⟩ := created
      simp [Event.asksCreation, asked rfl]
  | uncalled | absent | differs | observed => simp at created

theorem Dispatched.length_le (dispatched : Dispatched controller event q calls q' outcome) :
    calls.length ≤ 1 := by
  cases dispatched <;> simp

theorem Settled.conserves (settled : Settled event q outcome q') (ref : ObjectRef) :
    q'.pending (Event.asksCreation ref) ≤
      q.pending (Event.asksCreation ref) + retriable ref event outcome := by
  cases settled with
  | forgotten => exact Nat.le_add_right ..
  | retried failure now => exact q.pending_addRateLimited_le _ event now
  | uncounted => exact Nat.le_add_right ..

end Controller

namespace Shift

variable {ω : Type} [World ω] {controller : Controller ω} {s t : Shift ω}

/-- What a step adds to the record: it creates only what is on its way, and puts a creation on its way
only when it finds the external resource absent. -/
structure Adds (s t : Shift ω) (new : List (ObjectRef × HandlerCall)) : Prop where
  /-- It is added to the record. -/
  record_eq : t.record = s.record ++ new
  /-- The handler is called at most once. -/
  length_le : new.length ≤ 1
  /-- What is created was on its way. -/
  pending_pos : ∀ ref result, (ref, .acted .create result) ∈ new → 0 < s.pending ref
  /-- What is created is not on its way any more. -/
  conserves : ∀ ref, creations ref new + t.pending ref ≤ s.pending ref + absences ref new

omit [World ω] in
theorem Adds.nothing (record_eq : t.record = s.record)
    (pending_le : ∀ ref, t.pending ref ≤ s.pending ref) : Adds s t [] where
  record_eq := record_eq.trans (List.append_nil _).symm
  length_le := Nat.zero_le _
  pending_pos _ _ member := nomatch member
  conserves ref := by simpa [creations, absences] using pending_le ref

theorem Step.adds (step : Step controller s t) (sound : s.Sound) : ∃ new, Adds s t new := by
  cases step with
  | occur state occurrence =>
      exact ⟨[], .nothing rfl fun ref => Nat.add_le_add_right (occurrence.aside.pending_le ref) _⟩
  | take event handed =>
      refine ⟨[], .nothing rfl fun ref => ?_⟩
      have taken := WorkQueue.pending_get_le (asksCreation_congr ref) sound.consistent handed
      change s.state.queue.get.2.pending _ + (s.held ++ [event]).countP _ ≤ _
      rw [WorkQueue.countP_concat_eq, pending]
      omega
  | done front event rest holds =>
      refine ⟨[], .nothing rfl fun ref => Nat.le_of_eq ?_⟩
      exact congrArg (· + _) (s.state.queue.pending_done _ event)
  | process front event rest holds =>
      obtain ⟨q, outcome, dispatched, settled⟩ := callsOf_eq controller event s.state
      have held_eq (ref : ObjectRef) : s.held.countP (Event.asksCreation ref) =
          (front ++ rest).countP (Event.asksCreation ref) + (event.asksCreation ref).toNat := by
        rw [holds, List.perm_middle.countP_eq, WorkQueue.countP_cons_eq]
      refine ⟨(callsOf controller event s.state).map (event.ref, ·), rfl,
        (List.length_map _).trans_le dispatched.length_le, fun ref result created => ?_,
        fun ref => ?_⟩
      · have asks := dispatched.asksCreation created
        rw [pending, held_eq, asks]
        exact Nat.succ_pos _
      · have dispatching := dispatched.conserves ref
        have settling := settled.conserves ref
        change _ + ((final (controller.noted.process event) s.state).queue.pending _ +
          (front ++ rest).countP _) ≤ _
        rw [pending, held_eq]
        omega

/-- What some steps add to the record: each creation uses up one that was on its way at the start, or
one for which the external resource was found absent since. -/
theorem Run.conserves (run : Run controller s t) (sound : s.Sound) :
    t.Sound ∧ ∃ between, t.record = s.record ++ between ∧
      (∀ ref, creations ref between + t.pending ref ≤ s.pending ref + absences ref between) ∧
      ∀ ref earlier result later, between = earlier ++ (ref, .acted .create result) :: later →
        creations ref earlier < s.pending ref + absences ref earlier := by
  induction run with
  | refl => exact ⟨sound, [], (List.append_nil _).symm, by simp [creations, absences], by simp⟩
  | @tail middle t _ step ih =>
      obtain ⟨middle_sound, between, record_eq, conserved, earned⟩ := ih
      obtain ⟨new, added⟩ := step.adds middle_sound
      refine ⟨step.sound middle_sound, between ++ new, ?_, fun ref => ?_, ?_⟩
      · rw [added.record_eq, record_eq, List.append_assoc]
      · have before := conserved ref
        have after := added.conserves ref
        rw [creations_append, absences_append]
        omega
      · intro ref earlier result later split
        cases new with
        | nil => exact earned ref earlier result later (by simpa using split)
        | cons entry others =>
            obtain rfl : others = [] := by simpa using added.length_le
            rcases concat_eq_split split with ⟨rfl, rfl, -⟩ | ⟨rest, between_eq, -⟩
            · have on_its_way := added.pending_pos ref result (by simp)
              have before := conserved ref
              omega
            · exact earned ref earlier result rest between_eq

end Shift

end Reconciler
