import Reconciler.Event
import Reconciler.Proofs.WorkQueue.Consistency

/-!
# The order of handouts

Items leave the queue out of turn, because those of busy keys are passed over.  Among the items of one key
nothing is out of turn: along every run, also one in which items are done that were never handed out, the
items of a key that have entered the queue are those that were handed out, in this order, and then those
that are still queued.
-/

namespace Reconciler

/-- The item that is handed out. -/
def Happening.handed? {ι : Type} : Happening ι → Option ι
  | .handout item => some item
  | _ => none

namespace WorkQueue

variable {ι κ α : Type} [BEq ι] [BEq κ] [Keyed ι κ]

/-- The item has a key. -/
def hasKey (key : κ) (item : ι) : Bool :=
  Keyed.key item == key

/-- The items that enter the queue while some arrive one by one: each that does not wait already and is
not being processed. -/
def entering (q : WorkQueue ι κ α) : List ι → List ι
  | [] => []
  | item :: items =>
    (if q.dirty.contains item || q.processing.contains item then [] else [item]) ++
      entering (q.arrive item) items

/-- The items that enter the queue when an item is done: it does itself, if it has come again. -/
def reentering (q : WorkQueue ι κ α) (item : ι) : List ι :=
  if q.dirty.contains item then [item] else []

section Entries

omit [BEq κ] [Keyed ι κ]

theorem queue_arrive (q : WorkQueue ι κ α) (item : ι) :
    (q.arrive item).queue =
      q.queue ++ if q.dirty.contains item || q.processing.contains item then [] else [item] := by
  rcases q.arrive_cases item with ⟨known, result⟩ | ⟨-, running, result⟩ | ⟨unknown, idle, result⟩
  · rw [result, known]
    simp
  · rw [result, running]
    simp
  · rw [result, unknown, idle]
    simp

theorem queue_foldl_arrive (q : WorkQueue ι κ α) (items : List ι) :
    (items.foldl arrive q).queue = q.queue ++ q.entering items := by
  induction items generalizing q with
  | nil => simp [entering]
  | cons item items ih =>
      rw [List.foldl_cons, ih, queue_arrive, entering, List.append_assoc]

/-- What enters the queue does not depend on the limiter, the delayed items and whether the queue is
closed. -/
theorem entering_frame (q : WorkQueue ι κ α) (limiter : RateLimiter ι α)
    (waiting : List (Delayed ι α)) (closed : Bool) (items : List ι) :
    entering { q with limiter, waiting, closed } items = q.entering items := by
  induction items generalizing q with
  | nil => rfl
  | cons item items ih =>
      have arrived : arrive { q with limiter, waiting, closed } item =
          { q.arrive item with limiter, waiting, closed } := by
        unfold arrive
        dsimp only
        split
        · rfl
        · split <;> rfl
      rw [entering, entering, arrived, ih]

end Entries

theorem queue_done (q : WorkQueue ι κ α) (item : ι) :
    (q.done item).queue = q.queue ++ q.reentering item := by
  unfold done reentering
  dsimp only
  split
  · rfl
  · rw [List.append_nil]

variable [Quantity α]

/-- The items that enter the queue with an operation. -/
def entries (q : WorkQueue ι κ α) : Operation ι α → List ι
  | .get => []
  | .done item => q.reentering item
  | operation => q.entering (q.arrivals operation)

/-- The items that enter the queue along a run, in order. -/
def entered (q : WorkQueue ι κ α) : List (Operation ι α) → List ι
  | [] => []
  | operation :: operations => q.entries operation ++ entered (q.apply operation) operations

/-- The items that are handed out along a run, in order. -/
def handed (q : WorkQueue ι κ α) (operations : List (Operation ι α)) : List ι :=
  (q.history operations).filterMap Happening.handed?

/-- Each operation but a handout puts the items that enter at the end of the queue. -/
theorem queue_apply (q : WorkQueue ι κ α) {operation : Operation ι α}
    (not_get : operation ≠ .get) :
    (q.apply operation).queue = q.queue ++ q.entries operation := by
  have arriving (not_done : ∀ item, operation ≠ .done item) :
      (q.apply operation).queue = q.queue ++ q.entering (q.arrivals operation) := by
    obtain ⟨limiter, waiting, closed, result⟩ := q.apply_eq_foldl_arrive not_get not_done
    rw [result, queue_foldl_arrive, entering_frame]
  cases operation with
  | get => contradiction
  | done item => exact q.queue_done item
  | add _ | addAfter _ _ _ | addRateLimited _ _ | forget _ | advance _ | close | drain =>
      exact arriving (by simp)

theorem entered_concat (q : WorkQueue ι κ α) (operations : List (Operation ι α))
    (operation : Operation ι α) :
    q.entered (operations ++ [operation]) =
      q.entered operations ++ (q.run operations).entries operation := by
  induction operations generalizing q with
  | nil => simp [entered, run]
  | cons first operations ih =>
      simp only [List.cons_append, entered, ih, List.append_assoc]
      rfl

theorem handed_concat_get (q : WorkQueue ι κ α) (operations : List (Operation ι α)) :
    q.handed (operations ++ [.get]) =
      q.handed operations ++ (q.run operations).get.1.item.toList := by
  rw [handed, history_concat, List.filterMap_append, happenings, List.filterMap_map]
  exact congrArg _ (List.filterMap_some ..)

theorem handed_concat_of_ne (q : WorkQueue ι κ α) (operations : List (Operation ι α))
    {operation : Operation ι α} (not_get : operation ≠ .get) :
    q.handed (operations ++ [operation]) = q.handed operations := by
  have none_handed : ((q.run operations).happenings operation).filterMap Happening.handed? = [] := by
    cases operation with
    | get => contradiction
    | done item => rfl
    | add _ | addAfter _ _ _ | addRateLimited _ _ | forget _ | advance _ | close | drain =>
        simp [happenings, Happening.handed?]
  rw [handed, history_concat, List.filterMap_append, none_handed, List.append_nil, handed]

section Keys

variable [EquivBEq κ]

omit [Quantity α] in
/-- A handout takes the first item of its key out of the queue, and leaves the order of the others. -/
theorem filter_queue_get (q : WorkQueue ι κ α) (key : κ) :
    q.queue.filter (hasKey key) =
      q.get.1.item.toList.filter (hasKey key) ++ q.get.2.queue.filter (hasKey key) := by
  rcases q.get_cases with ⟨front, item, rest, split, busy, free, answer, left⟩ | ⟨-, answer⟩
  · rw [answer, left, split]
    cases ofKey : hasKey key item with
    | false => simp [ofKey]
    | true =>
        -- An item of the key before this one would be free as well.
        have none_before : front.filter (hasKey key) = [] := by
          refine List.filter_eq_nil_iff.mpr fun x member x_ofKey => ?_
          have same : (Keyed.key x == Keyed.key item) = true := BEq.trans x_ofKey (BEq.symm ofKey)
          have x_busy := busy x member
          rw [isBusy, List.contains_congr same] at x_busy
          rw [isBusy, x_busy] at free
          contradiction
        simp [ofKey, none_before]
  · rw [answer]
    rfl

/-- The items of a key that have entered the queue are those that were handed out, and then those that
are queued. -/
theorem filter_entered (limiter : RateLimiter ι α) (operations : List (Operation ι α)) (key : κ) :
    ((empty limiter : WorkQueue ι κ α).entered operations).filter (hasKey key) =
      ((empty limiter : WorkQueue ι κ α).handed operations).filter (hasKey key) ++
        ((empty limiter : WorkQueue ι κ α).run operations).queue.filter (hasKey key) := by
  induction operations using List.reverseRecOn with
  | nil => rfl
  | append_singleton operations operation ih =>
      rw [entered_concat, run_concat, List.filter_append, ih]
      by_cases is_get : operation = .get
      · subst is_get
        rw [handed_concat_get, List.filter_append, filter_queue_get, List.append_assoc]
        simp [entries, apply]
      · rw [handed_concat_of_ne _ _ is_get, queue_apply _ is_get, List.filter_append,
          List.append_assoc]

/-- The items of a key are handed out in the order in which they entered the queue, and the queue holds
the rest of them.  An item enters at the end of the queue; the first queued item whose key is not busy is
handed out; and when none is, the queue stays as it is, and the keys of all queued items are busy. -/
theorem fifo_by_key (limiter : RateLimiter ι α) (operations : List (Operation ι α)) :
    let start : WorkQueue ι κ α := empty limiter
    let q := start.run operations
    (∀ key,
      (start.entered operations).filter (hasKey key) =
        (start.handed operations).filter (hasKey key) ++ q.queue.filter (hasKey key)) ∧
      (∀ operation, operation ≠ .get →
        (q.apply operation).queue = q.queue ++ q.entries operation) ∧
      (∀ item, q.get.1.item = some item →
        ∃ front rest,
          q.queue = front ++ item :: rest ∧ (∀ x ∈ front, q.isBusy x = true) ∧
            q.isBusy item = false ∧ q.get.2.queue = front ++ rest) ∧
      (q.get.1.item = none → q.get.2 = q ∧ ∀ x ∈ q.queue, q.isBusy x = true) := by
  intro start q
  refine ⟨filter_entered limiter operations, fun operation not_get => q.queue_apply not_get, ?_, ?_⟩
  · intro item handed
    rcases q.get_cases with ⟨front, first, rest, split, busy, free, answer, left⟩ | ⟨-, answer⟩
    · rw [answer] at handed ⊢
      obtain rfl : first = item := Option.some.inj handed
      exact ⟨front, rest, split, busy, free, left⟩
    · rw [answer] at handed
      contradiction
  · intro none_handed
    rcases q.get_cases with ⟨front, first, rest, -, -, -, answer, -⟩ | ⟨all_busy, answer⟩
    · rw [answer] at none_handed
      contradiction
    · exact ⟨by rw [answer], all_busy⟩

end Keys

/-- An event about a resource with a name. -/
def eventAbout (type : EventType) (name : String) : Event :=
  ⟨type, ⟨"v1", "Repo", name, "default"⟩, ""⟩

/-- A run in which an event of a busy key is passed over, and comes again while it is being
processed. -/
def passedOver : List (Operation Event Number) :=
  [.add (eventAbout .observe "demo"), .add (eventAbout .update "demo"),
    .add (eventAbout .observe "other"), .get, .get, .done (eventAbout .observe "demo"), .get,
    .add (eventAbout .update "demo"), .done (eventAbout .update "demo")]

/-- A queue at its start. -/
def unused : WorkQueue Event ObjectRef Number :=
  empty (.longest [])

theorem fifo_by_key_passedOver :
    let key : ObjectRef := ⟨"v1", "Repo", "demo", "default"⟩
    (unused.entered passedOver).filter (hasKey key) =
        (unused.handed passedOver).filter (hasKey key) ++
          (unused.run passedOver).queue.filter (hasKey key) ∧
      unused.handed passedOver =
        [eventAbout .observe "demo", eventAbout .observe "other", eventAbout .update "demo"] ∧
      (unused.run passedOver).queue = [eventAbout .update "demo"] ∧
      (∃ front rest,
        (unused.run (passedOver.take 4)).queue = front ++ eventAbout .observe "other" :: rest ∧
          ∀ x ∈ front, (unused.run (passedOver.take 4)).isBusy x = true) ∧
      (unused.run (passedOver.take 5)).get.2 = unused.run (passedOver.take 5) := by
  have all_handed : unused.handed passedOver =
      [eventAbout .observe "demo", eventAbout .observe "other", eventAbout .update "demo"] := rfl
  have left : (unused.run passedOver).queue = [eventAbout .update "demo"] := rfl
  have other_next :
      (unused.run (passedOver.take 4)).get.1.item = some (eventAbout .observe "other") := rfl
  have none_next : (unused.run (passedOver.take 5)).get.1.item = none := rfl
  obtain ⟨in_order, -⟩ := fifo_by_key (κ := ObjectRef) (.longest []) passedOver
  obtain ⟨-, -, first_free, -⟩ := fifo_by_key (κ := ObjectRef) (.longest []) (passedOver.take 4)
  obtain ⟨-, -, -, unchanged⟩ := fifo_by_key (κ := ObjectRef) (.longest []) (passedOver.take 5)
  obtain ⟨front, rest, split, busy, -⟩ := first_free _ other_next
  exact ⟨in_order _, all_handed, left, ⟨front, rest, split, busy⟩, (unchanged none_next).1⟩

end WorkQueue

end Reconciler
