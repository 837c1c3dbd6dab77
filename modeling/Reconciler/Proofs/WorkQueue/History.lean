import Reconciler.Event
import Reconciler.Proofs.WorkQueue.Consistency

/-!
# What the history of a work queue tells

Along an orderly run the parts of the queue can be read off the history: the items that have come are
those that arrived since they were last handed out, and the items that are being processed are those
in flight.  Hence no arrival is lost, and nothing is handed out that did not arrive.
-/

namespace Reconciler.WorkQueue

variable {ι κ α : Type} [BEq ι] [BEq κ] [Keyed ι κ]

/-- The parts of a queue are what its history tells. -/
structure Tracks (past : List (Happening ι)) (q : WorkQueue ι κ α) : Prop where
  /-- The parts of the queue agree with each other. -/
  consistent : q.Consistent
  /-- The items that have come are those that arrived since they were last handed out. -/
  dirty_iff : ∀ item, q.dirty.contains item = true ↔ HasArrived past item
  /-- The items that are being processed are those in flight. -/
  processing_iff : ∀ item, q.processing.contains item = true ↔ InFlight past item
  /-- Each item that was handed out had arrived since it was handed out before. -/
  earned : ∀ earlier item later,
    past = earlier ++ .handout item :: later → HasArrived earlier item

/-- What happens at a handout is that the item had arrived. -/
theorem earned_concat {past : List (Happening ι)} {last : Happening ι}
    (earned : ∀ earlier item later,
      past = earlier ++ .handout item :: later → HasArrived earlier item)
    (last_earned : ∀ item, last = .handout item → HasArrived past item) :
    ∀ earlier item later,
      past ++ [last] = earlier ++ .handout item :: later → HasArrived earlier item := by
  intro earlier item later split
  rcases concat_eq_split split with ⟨rfl, same, -⟩ | ⟨middle, front, -⟩
  · exact last_earned item same
  · exact earned earlier item middle front

namespace Tracks

variable {past : List (Happening ι)} {q : WorkQueue ι κ α}

theorem empty (limiter : RateLimiter ι α) :
    Tracks [] (WorkQueue.empty limiter : WorkQueue ι κ α) := by
  refine ⟨.empty limiter, ?_, ?_, ?_⟩
  · simp [WorkQueue.empty]
  · simp [WorkQueue.empty]
  · intro earlier item later split
    simp at split

theorem with_frame (tracks : Tracks past q) (limiter : RateLimiter ι α)
    (waiting : List (Delayed ι α)) (closed : Bool) :
    Tracks past { q with limiter, waiting, closed } :=
  ⟨tracks.consistent.with_frame limiter waiting closed, tracks.dirty_iff, tracks.processing_iff,
    tracks.earned⟩

variable [EquivBEq ι]

theorem arrive (tracks : Tracks past q) (item : ι) :
    Tracks (past ++ [.arrival item]) (q.arrive item) := by
  refine ⟨tracks.consistent.arrive item, ?_, ?_, earned_concat tracks.earned (by simp)⟩
  · intro x
    rw [hasArrived_concat_arrival, ← tracks.dirty_iff x, arrive_dirty]
  · intro x
    rw [inFlight_concat_arrival, ← tracks.processing_iff x, arrive_processing]

theorem foldl_arrive (tracks : Tracks past q) (items : List ι) :
    Tracks (past ++ items.map .arrival) (items.foldl WorkQueue.arrive q) := by
  induction items generalizing past q with
  | nil => simpa using tracks
  | cons item items ih => simpa using ih (tracks.arrive item)

variable [EquivBEq κ] [LawfulKeyed ι κ]

theorem get (tracks : Tracks past q) :
    Tracks (past ++ q.get.1.item.toList.map .handout) q.get.2 := by
  have consistent := tracks.consistent.get
  rcases q.get_cases with ⟨front, item, rest, split, -, free, answer, -⟩ | ⟨-, answer⟩
  · rw [answer] at consistent ⊢
    have idle := tracks.consistent.idle_of_free free
    have come := tracks.consistent.queue_dirty item (by simp [split])
    refine ⟨consistent, ?_, ?_, earned_concat tracks.earned ?_⟩
    · intro x
      simp only [Option.toList_some, List.map_singleton, hasArrived_concat_handout,
        ← tracks.dirty_iff x, BEq.comm (a := item)]
      exact contains_erased
    · intro x
      simp only [Option.toList_some, List.map_singleton, inFlight_concat_handout,
        ← tracks.processing_iff x]
      simp [take, gauged, idle, List.contains_append, BEq.comm, or_comm]
    · rintro x same
      obtain rfl : item = x := by simpa using same
      exact (tracks.dirty_iff item).mp come
  · rw [answer]
    simpa using tracks

theorem done (tracks : Tracks past q) {item : ι} (flying : InFlight past item) :
    Tracks (past ++ [.release item]) (q.done item) := by
  have running := (tracks.processing_iff item).mpr flying
  refine ⟨tracks.consistent.done running, ?_, ?_, earned_concat tracks.earned (by simp)⟩
  · intro x
    rw [hasArrived_concat_release, ← tracks.dirty_iff x, (q.done_frame item).1]
  · intro x
    rw [inFlight_concat_release, ← tracks.processing_iff x, BEq.comm (a := item),
      ← contains_erased, done_processing]

variable [Quantity α]

/-- An operation that is allowed keeps the queue in step with its history. -/
theorem apply (tracks : Tracks past q) (operation : Operation ι α)
    (allowed : ∀ item, operation = .done item → InFlight past item) :
    Tracks (past ++ q.happenings operation) (q.apply operation) := by
  have arriving (not_get : operation ≠ .get) (not_done : ∀ item, operation ≠ .done item) :
      Tracks (past ++ (q.arrivals operation).map .arrival) (q.apply operation) := by
    obtain ⟨limiter, waiting, closed, result⟩ := q.apply_eq_foldl_arrive not_get not_done
    rw [result]
    exact (tracks.with_frame limiter waiting closed).foldl_arrive _
  cases operation with
  | get => exact tracks.get
  | done item => exact tracks.done (allowed item rfl)
  | add _ | addAfter _ _ _ | addRateLimited _ _ | forget _ | advance _ | close | drain =>
      exact arriving (by simp) (by simp)

/-- A queue is what the history of an orderly run tells. -/
theorem run (limiter : RateLimiter ι α) {operations : List (Operation ι α)}
    (orderly : (WorkQueue.empty limiter : WorkQueue ι κ α).Orderly operations) :
    Tracks ((WorkQueue.empty limiter : WorkQueue ι κ α).history operations)
      ((WorkQueue.empty limiter : WorkQueue ι κ α).run operations) := by
  induction operations using List.reverseRecOn with
  | nil => exact .empty limiter
  | append_singleton operations operation ih =>
      obtain ⟨before_orderly, allowed⟩ := (orderly_concat _ _ _).mp orderly
      rw [run_concat, history_concat]
      exact (ih before_orderly).apply operation allowed

end Tracks

/-! ## Items that came again while they are being processed -/

section Continuation

variable [EquivBEq ι] [EquivBEq κ] [LawfulKeyed ι κ] [Quantity α]

/-- An item that has come again while it is being processed stays so until it is done. -/
theorem held_apply {q : WorkQueue ι κ α} (consistent : q.Consistent) {item : ι}
    (running : q.processing.contains item = true) (come : q.dirty.contains item = true)
    {operation : Operation ι α} (not_done : ∀ x, operation = .done x → (x == item) = false) :
    (q.apply operation).processing.contains item = true ∧
      (q.apply operation).dirty.contains item = true := by
  have arriving (items : List ι) (q : WorkQueue ι κ α)
      (running : q.processing.contains item = true) (come : q.dirty.contains item = true) :
      (items.foldl arrive q).processing.contains item = true ∧
        (items.foldl arrive q).dirty.contains item = true := by
    induction items generalizing q with
    | nil => exact ⟨running, come⟩
    | cons x items ih =>
        exact ih (q.arrive x) (by simpa using running) ((q.arrive_dirty x item).mpr (.inr come))
  by_cases is_get : operation = .get
  · subst is_get
    rcases q.get_cases with ⟨front, x, rest, -, -, free, answer, -⟩ | ⟨-, answer⟩
    · have idle := consistent.idle_of_free free
      have other : (item == x) = false := by
        refine Bool.eq_false_iff.mpr fun same => ?_
        rw [← List.contains_congr same, running] at idle
        simp at idle
      rw [apply, answer]
      refine ⟨?_, contains_erased.mpr ⟨come, other⟩⟩
      simp [take, gauged, idle, List.contains_append, running]
    · rw [apply, answer]
      exact ⟨running, come⟩
  by_cases is_done : ∃ x, operation = .done x
  · obtain ⟨x, rfl⟩ := is_done
    have kept := contains_erased.mpr ⟨running, BEq.symm_false (not_done x rfl)⟩
    rw [apply, done_processing, (q.done_frame x).1]
    exact ⟨kept, come⟩
  · obtain ⟨limiter, waiting, closed, result⟩ :=
      q.apply_eq_foldl_arrive is_get fun x same => is_done ⟨x, same⟩
    rw [result]
    exact arriving _ _ running come

theorem held_run {limiter : RateLimiter ι α} {operations later : List (Operation ι α)} {item : ι}
    (orderly : (empty limiter : WorkQueue ι κ α).Orderly (operations ++ later))
    (running : ((empty limiter : WorkQueue ι κ α).run operations).processing.contains item = true)
    (come : ((empty limiter : WorkQueue ι κ α).run operations).dirty.contains item = true)
    (not_done : ∀ x, .done x ∈ later → (x == item) = false) :
    ((empty limiter : WorkQueue ι κ α).run (operations ++ later)).processing.contains item = true ∧
      ((empty limiter : WorkQueue ι κ α).run (operations ++ later)).dirty.contains item = true := by
  induction later using List.reverseRecOn with
  | nil => simpa using ⟨running, come⟩
  | append_singleton later operation ih =>
      rw [← List.append_assoc] at orderly ⊢
      obtain ⟨still_running, still_come⟩ :=
        ih (orderly.of_append _) fun x member => not_done x (by simp [member])
      rw [run_concat]
      exact held_apply (Tracks.run limiter (orderly.of_append _)).consistent still_running still_come
        fun x same => not_done x (by simp [same])

end Continuation

/-! ## Events -/

section Events

instance : EquivBEq Event where
  rfl := by simp [BEq.beq]
  symm {a b} := by
    simp only [BEq.beq, Bool.and_eq_true, decide_eq_true_eq]
    rintro ⟨type_eq, ref_eq⟩
    exact ⟨type_eq.symm, ref_eq.symm⟩
  trans {a b c} := by
    simp only [BEq.beq, Bool.and_eq_true, decide_eq_true_eq]
    rintro ⟨type_eq, ref_eq⟩ ⟨type_eq', ref_eq'⟩
    exact ⟨type_eq.trans type_eq', ref_eq.trans ref_eq'⟩

instance : LawfulKeyed Event ObjectRef where
  key_beq {a b} := by
    simp only [BEq.beq, Bool.and_eq_true, decide_eq_true_eq]
    exact And.right

/-- A run in which an event comes again while it is being processed, and is done after the queue was
closed. -/
def readded : List (Operation Event Number) :=
  let event (id : String) : Event := ⟨.observe, ⟨"v1", "Repo", "demo", "default"⟩, id⟩
  [.add (event "1"), .get, .add (event "2"), .close, .done (event "1"), .get]

theorem readded_orderly :
    (empty (.longest []) : WorkQueue Event ObjectRef Number).Orderly readded := by
  rintro earlier item later split
  rcases earlier with _ | ⟨_, _ | ⟨_, _ | ⟨_, _ | ⟨_, _ | ⟨_, _ | ⟨_, earlier⟩⟩⟩⟩⟩⟩ <;>
    simp [readded] at split
  obtain ⟨rfl, rfl, rfl, rfl, rfl, -⟩ := split
  refine ⟨[.arrival _], .handout _, [.arrival _], rfl, rfl, ?_⟩
  simp [Happening.isRelease]

end Events

/-! ## Whole runs -/

section Runs

variable [EquivBEq ι] [EquivBEq κ] [LawfulKeyed ι κ] [Quantity α]

/-- After every orderly run the parts of the queue agree with each other, and what is being processed
is what is in flight. -/
theorem consistent_of_orderly (limiter : RateLimiter ι α) (operations : List (Operation ι α))
    (orderly : (empty limiter : WorkQueue ι κ α).Orderly operations) :
    ((empty limiter : WorkQueue ι κ α).run operations).Consistent ∧
      ∀ item,
        ((empty limiter : WorkQueue ι κ α).run operations).processing.contains item = true ↔
          InFlight ((empty limiter : WorkQueue ι κ α).history operations) item := by
  have tracks := Tracks.run limiter orderly
  exact ⟨tracks.consistent, tracks.processing_iff⟩

theorem consistent_readded :
    (empty (.longest []) : WorkQueue Event ObjectRef Number).Orderly readded ∧
      ((empty (.longest []) : WorkQueue Event ObjectRef Number).run readded).Consistent :=
  ⟨readded_orderly, (consistent_of_orderly (.longest []) readded readded_orderly).1⟩

/-- No arrival is lost and none is made up: an item has come exactly when it arrived since its last
handout; it is then queued, or it enters the queue when its processing is done; and each handout
follows an arrival that no earlier handout has answered. -/
theorem arrivals_kept (limiter : RateLimiter ι α) (operations : List (Operation ι α))
    (orderly : (empty limiter : WorkQueue ι κ α).Orderly operations) (item : ι) :
    let start : WorkQueue ι κ α := empty limiter
    let q := start.run operations
    let past := start.history operations
    (q.dirty.contains item = true ↔ HasArrived past item) ∧
      (HasArrived past item →
        q.queue.contains item = true ∨
          (q.processing.contains item = true ∧
            ∀ later released,
              (∀ x, .done x ∈ later → (x == item) = false) →
              start.Orderly (operations ++ later) → (released == item) = true →
                (start.run (operations ++ later ++ [.done released])).queue =
                  (start.run (operations ++ later)).queue ++ [released])) ∧
      (∀ earlier handed later,
        past = earlier ++ .handout handed :: later → HasArrived earlier handed) ∧
      ∀ earlier first between second later,
        past = earlier ++ .handout first :: between ++ .handout second :: later →
        (first == item) = true → (second == item) = true →
          ∃ x, .arrival x ∈ between ∧ (x == item) = true := by
  intro start q past
  have tracks := Tracks.run limiter orderly
  refine ⟨tracks.dirty_iff item, ?_, tracks.earned, ?_⟩
  · intro arrived
    have come := (tracks.dirty_iff item).mpr arrived
    obtain ⟨x, member, same⟩ := List.contains_iff_exists_mem_beq.mp come
    rcases tracks.consistent.dirty_held x member with queued | running
    · left
      rwa [List.contains_congr same]
    · right
      rw [← List.contains_congr same] at running
      refine ⟨running, ?_⟩
      intro later released not_done later_orderly equal
      obtain ⟨-, still_come⟩ := held_run later_orderly running come not_done
      rw [← List.contains_congr equal] at still_come
      rw [run_concat, apply, done]
      dsimp only
      rw [if_pos still_come]
      rfl
  · intro earlier first between second later split first_same second_same
    have arrived := tracks.earned _ second later split
    obtain ⟨x, member, same⟩ :=
      arrived.after_handout (BEq.trans first_same (BEq.symm second_same))
    exact ⟨x, member, BEq.trans same second_same⟩

theorem arrivals_kept_readded :
    let start : WorkQueue Event ObjectRef Number := empty (.longest [])
    let event : Event := ⟨.observe, ⟨"v1", "Repo", "demo", "default"⟩, "1"⟩
    start.Orderly readded ∧ HasArrived (start.history (readded.take 3)) event ∧
      (start.run (readded.take 3 ++ [.close] ++ [.done event])).queue = [event] := by
  intro start event
  have orderly : start.Orderly (readded.take 3 ++ [.close]) :=
    Orderly.of_append [.done event, .get] readded_orderly
  obtain ⟨-, kept, -⟩ := arrivals_kept (.longest []) (readded.take 3) (orderly.of_append _) event
  have arrived : HasArrived (start.history (readded.take 3)) event :=
    ⟨[.arrival event, .handout event], .arrival _, [], rfl, rfl, by simp⟩
  rcases kept arrived with queued | ⟨-, enters⟩
  · exact absurd queued (by decide)
  · exact ⟨readded_orderly, arrived, enters [.close] event (by simp) orderly rfl⟩

end Runs

end Reconciler.WorkQueue
