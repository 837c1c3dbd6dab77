import Reconciler.Proofs.WorkQueue.History
import Reconciler.Proofs.WorkQueue.Order

/-!
# Draining

A drain closes the queue and waits until nothing is queued or being processed.  When it succeeds, all
that had arrived was handed out and is done, and the queue stays empty whatever is asked of it later.
-/

namespace Reconciler.WorkQueue

variable {ι κ α : Type} [BEq ι] [BEq κ] [Keyed ι κ]

/-- What a drain answers that does not wait. -/
def drainedAtOnce (q : WorkQueue ι κ α) : Bool :=
  q.close.isDrained

/-- Nothing comes out of the queue any more: it is closed, and nothing waits in it. -/
structure Over (q : WorkQueue ι κ α) : Prop where
  /-- No items are accepted. -/
  closed : q.closed = true
  /-- No items are queued. -/
  queue_eq : q.queue = []
  /-- No item has come that was not handed out since. -/
  dirty_eq : q.dirty = []

omit [BEq ι] [BEq κ] [Keyed ι κ] in
theorem isDrained_iff (q : WorkQueue ι κ α) :
    q.isDrained = true ↔ q.queue = [] ∧ q.processing = [] := by
  simp [isDrained]

/-- In a queue whose parts agree, nothing has come that is neither queued nor being processed. -/
theorem Consistent.over_of_isDrained {q : WorkQueue ι κ α} (consistent : q.Consistent)
    (closed : q.closed = true) (drained : q.isDrained = true) : q.Over := by
  obtain ⟨queue_eq, processing_eq⟩ := q.isDrained_iff.mp drained
  refine ⟨closed, queue_eq, List.eq_nil_iff_forall_not_mem.mpr fun item come => ?_⟩
  rcases consistent.dirty_held item come with queued | running
  · simp [queue_eq] at queued
  · simp [processing_eq] at running

theorem Over.get {q : WorkQueue ι κ α} (spent : q.Over) : q.get = (⟨none, true⟩, q) := by
  rcases q.get_cases with ⟨front, item, rest, split, -⟩ | ⟨-, answer⟩
  · rw [spent.queue_eq] at split
    simp at split
  · rw [answer, spent.closed, spent.queue_eq]
    rfl

section Closed

variable [Quantity α]

/-- On a closed queue the operations other than handing out and releasing change nothing but the limiter
and the delayed items. -/
theorem apply_of_closed {q : WorkQueue ι κ α} (closed : q.closed = true) {operation : Operation ι α}
    (not_get : operation ≠ .get) (not_done : ∀ item, operation ≠ .done item) :
    ∃ limiter waiting, q.apply operation = { q with limiter, waiting } := by
  have refused {q : WorkQueue ι κ α} (closed : q.closed = true) (now : α) (item : ι) (delay : α) :
      q.addAfter now item delay = q := by
    simp [addAfter, add, closed]
  cases operation with
  | add item => exact ⟨q.limiter, q.waiting, if_pos closed⟩
  | addAfter now item delay => exact ⟨q.limiter, q.waiting, refused closed now item delay⟩
  | addRateLimited now item =>
      simp only [apply, addRateLimited]
      generalize q.limiter.wait now item = answer
      obtain ⟨_ | delay, limiter⟩ := answer
      · exact ⟨limiter, q.waiting, rfl⟩
      · exact ⟨limiter, q.waiting, refused (q := { q with limiter }) closed now item delay⟩
  | forget item => exact ⟨q.limiter.forget item, q.waiting, rfl⟩
  | advance now => exact ⟨q.limiter, q.waiting, if_pos closed⟩
  | get => contradiction
  | done item => exact (not_done item rfl).elim
  | close | drain => exact ⟨q.limiter, [], by rw [apply, close, ← closed]⟩

theorem closed_apply {q : WorkQueue ι κ α} (closed : q.closed = true) (operation : Operation ι α) :
    (q.apply operation).closed = true := by
  by_cases is_get : operation = .get
  · subst is_get
    rcases q.get_cases with ⟨_, _, _, -, -, -, answer, -⟩ | ⟨-, answer⟩ <;>
      rw [apply, answer] <;> exact closed
  by_cases is_done : ∃ item, operation = .done item
  · obtain ⟨item, rfl⟩ := is_done
    rw [apply, (q.done_frame item).2.2, closed]
  · obtain ⟨limiter, waiting, result⟩ :=
      apply_of_closed closed is_get fun item same => is_done ⟨item, same⟩
    rw [result, closed]

theorem closed_run {q : WorkQueue ι κ α} (closed : q.closed = true)
    (operations : List (Operation ι α)) : (q.run operations).closed = true := by
  induction operations using List.reverseRecOn with
  | nil => exact closed
  | append_singleton operations operation ih =>
      rw [run_concat]
      exact closed_apply ih operation

theorem Over.apply {q : WorkQueue ι κ α} (spent : q.Over) (operation : Operation ι α) :
    (q.apply operation).Over := by
  by_cases is_get : operation = .get
  · subst is_get
    rw [WorkQueue.apply, spent.get]
    exact spent
  by_cases is_done : ∃ item, operation = .done item
  · obtain ⟨item, rfl⟩ := is_done
    obtain ⟨dirty_eq, -, closed_eq⟩ := q.done_frame item
    refine ⟨closed_eq.trans spent.closed, ?_, dirty_eq.trans spent.dirty_eq⟩
    rw [WorkQueue.apply, queue_done, reentering, spent.dirty_eq, spent.queue_eq]
    rfl
  · obtain ⟨limiter, waiting, result⟩ :=
      apply_of_closed spent.closed is_get fun item same => is_done ⟨item, same⟩
    rw [result]
    exact ⟨spent.closed, spent.queue_eq, spent.dirty_eq⟩

theorem Over.run {q : WorkQueue ι κ α} (spent : q.Over) (operations : List (Operation ι α)) :
    (q.run operations).Over := by
  induction operations using List.reverseRecOn with
  | nil => exact spent
  | append_singleton operations operation ih =>
      rw [run_concat]
      exact ih.apply operation

theorem Over.handed_eq_nil {q : WorkQueue ι κ α} (spent : q.Over)
    (operations : List (Operation ι α)) : q.handed operations = [] := by
  induction operations using List.reverseRecOn with
  | nil => rfl
  | append_singleton operations operation ih =>
      by_cases is_get : operation = .get
      · subst is_get
        rw [handed_concat_get, ih, (spent.run operations).get]
        rfl
      · rw [handed_concat_of_ne _ _ is_get, ih]

end Closed

/-! ## Whole runs -/

section Answered

variable {past : List (Happening ι)} {q : WorkQueue ι κ α}

/-- When nothing is left, each arrival was followed by a handout, and that by its release. -/
theorem Tracks.arrival_answered (tracks : Tracks past q) (dirty_eq : q.dirty = [])
    (processing_eq : q.processing = []) {earlier later : List (Happening ι)} {added : ι}
    (split : past = earlier ++ .arrival added :: later) [EquivBEq ι] :
    ∃ before handed between released after,
      later = before ++ .handout handed :: between ++ .release released :: after ∧
        (handed == added) = true ∧ (released == added) = true := by
  have not_waiting : ¬HasArrived past added := by
    rw [← tracks.dirty_iff added, dirty_eq]
    simp
  have not_flying : ¬InFlight past added := by
    rw [← tracks.processing_iff added, processing_eq]
    simp
  obtain ⟨handout, member, ends⟩ :=
    exists_end_of_not_standing not_waiting split (by simp [Happening.isArrival])
  obtain ⟨before, rest, rfl⟩ := List.append_of_mem member
  cases handout with
  | arrival | release => simp [Happening.isHandout] at ends
  | handout handed =>
      have again : past =
          (earlier ++ .arrival added :: before) ++ .handout handed :: rest := by
        simp [split]
      obtain ⟨release, member, released_ends⟩ := exists_end_of_not_standing not_flying again ends
      obtain ⟨between, after, rfl⟩ := List.append_of_mem member
      cases release with
      | arrival | handout => simp [Happening.isRelease] at released_ends
      | release released =>
          exact ⟨before, handed, between, released, after, by simp, ends, released_ends⟩

theorem Tracks.exists_inFlight_iff (tracks : Tracks past q) [EquivBEq ι] :
    (∃ item, InFlight past item) ↔ q.processing ≠ [] := by
  constructor
  · rintro ⟨item, flying⟩ none_running
    have running := (tracks.processing_iff item).mpr flying
    rw [none_running] at running
    simp at running
  · intro some_running
    obtain ⟨item, member⟩ := List.exists_mem_of_ne_nil _ some_running
    exact ⟨item, (tracks.processing_iff item).mp (List.elem_eq_true_of_mem member)⟩

variable [EquivBEq ι] [EquivBEq κ] [LawfulKeyed ι κ] [Quantity α]

/-- When a drain succeeds, at once or after other operations meanwhile, each arrival was followed by a
handout of the item and that by its release; and whatever is asked of the queue later, nothing is handed
out any more, each request for work is told that the queue is closed and empty, and nothing is queued.  A
drain that does not wait fails exactly when an item is queued or in flight. -/
theorem drained_for_good (limiter : RateLimiter ι α) (before meanwhile : List (Operation ι α))
    (orderly : (empty limiter : WorkQueue ι κ α).Orderly (before ++ .drain :: meanwhile)) :
    let start : WorkQueue ι κ α := empty limiter
    let past := start.history (before ++ .drain :: meanwhile)
    let q := start.run (before ++ .drain :: meanwhile)
    (q.isDrained = true →
      (∀ earlier added later, past = earlier ++ .arrival added :: later →
        ∃ first handed second released third,
          later = first ++ .handout handed :: second ++ .release released :: third ∧
            (handed == added) = true ∧ (released == added) = true) ∧
        ∀ later,
          q.handed later = [] ∧ (q.run later).get.1 = ⟨none, true⟩ ∧
            (q.run later).queue.length = 0) ∧
      ((start.run before).drainedAtOnce = false ↔
        (∃ item, item ∈ (start.run before).queue) ∨
          ∃ item, InFlight (start.history before) item) := by
  intro start past q
  constructor
  · intro drained
    have tracks : Tracks past q := Tracks.run limiter orderly
    have closed : q.closed = true := by
      have same : q = (start.run before).close.run meanwhile := by
        simp [q, run, apply]
      rw [same]
      exact closed_run rfl meanwhile
    have spent : q.Over := tracks.consistent.over_of_isDrained closed drained
    refine ⟨fun earlier added later split => ?_, fun later => ?_⟩
    · exact tracks.arrival_answered spent.dirty_eq (q.isDrained_iff.mp drained).2 split
    · have still_spent := spent.run later
      exact ⟨spent.handed_eq_nil later, by rw [still_spent.get], by rw [still_spent.queue_eq]; rfl⟩
  · have tracks := Tracks.run limiter (orderly.of_append _)
    rw [tracks.exists_inFlight_iff, drainedAtOnce, Bool.eq_false_iff, Ne, isDrained_iff, not_and_or]
    refine or_congr_left ⟨List.exists_mem_of_ne_nil _, ?_⟩
    rintro ⟨item, member⟩
    exact List.ne_nil_of_mem member

end Answered

/-- A run in which an event comes again while it is being processed. -/
def beforeDrain : List (Operation Event Number) :=
  [.add (eventAbout .observe "demo"), .get, .add (eventAbout .observe "demo")]

/-- What workers do while a drain waits: the event is done, handed out again, and done. -/
def whileDraining : List (Operation Event Number) :=
  [.done (eventAbout .observe "demo"), .get, .done (eventAbout .observe "demo")]

theorem draining_orderly : unused.Orderly (beforeDrain ++ .drain :: whileDraining) := by
  rintro earlier item later split
  rcases earlier with
    _ | ⟨_, _ | ⟨_, _ | ⟨_, _ | ⟨_, _ | ⟨_, _ | ⟨_, _ | ⟨_, earlier⟩⟩⟩⟩⟩⟩⟩ <;>
    simp [beforeDrain, whileDraining] at split
  · obtain ⟨rfl, rfl, rfl, rfl, rfl, -⟩ := split
    exact ⟨[.arrival _], .handout _, [.arrival _], rfl, rfl, by simp [Happening.isRelease]⟩
  · obtain ⟨rfl, rfl, rfl, rfl, rfl, rfl, rfl, -⟩ := split
    exact ⟨[.arrival _, .handout _, .arrival _, .release _], .handout _, [], rfl, rfl, by simp⟩

theorem drained_whileDraining :
    (unused.run (beforeDrain ++ .drain :: whileDraining)).isDrained = true := by
  decide

theorem drained_for_good_again :
    let q := unused.run (beforeDrain ++ .drain :: whileDraining)
    unused.Orderly (beforeDrain ++ .drain :: whileDraining) ∧ q.isDrained = true ∧
      (∀ later, q.handed later = [] ∧ (q.run later).get.1 = ⟨none, true⟩) ∧
      (unused.run beforeDrain).drainedAtOnce = false := by
  obtain ⟨succeeded, at_once⟩ :=
    drained_for_good (κ := ObjectRef) (.longest []) beforeDrain whileDraining draining_orderly
  obtain ⟨-, for_good⟩ := succeeded drained_whileDraining
  have flying : InFlight (unused.history beforeDrain) (eventAbout .observe "demo") :=
    ⟨[.arrival _], .handout _, [.arrival _], rfl, rfl, by simp [Happening.isRelease]⟩
  refine ⟨draining_orderly, drained_whileDraining, fun later => ?_, at_once.mpr (.inr ⟨_, flying⟩)⟩
  exact ⟨(for_good later).1, (for_good later).2.1⟩

end Reconciler.WorkQueue
