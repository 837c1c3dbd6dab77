import Mathlib.Data.List.Basic
import Mathlib.Data.List.Induction
import Reconciler.WorkQueue

/-!
# Runs of a work queue

A run is a list of operations, of which each that depends on the time carries its own reading of the
clock.  The history of a run keeps what came of the operations: items arrive, are handed out and are
released.  A run is orderly when items are only done that were handed out and not released since.
-/

namespace Reconciler

/-- Equal items have equal keys. -/
class LawfulKeyed (ι : Type) (κ : outParam Type) [BEq ι] [BEq κ] [Keyed ι κ] : Prop where
  /-- The key does not tell equal items apart. -/
  key_beq {a b : ι} : (a == b) = true → (Keyed.key a == Keyed.key b) = true

/-- Something of one kind happened, and nothing of another kind since. -/
def Standing {β : Type} (begins ends : β → Bool) (past : List β) : Prop :=
  ∃ earlier event later,
    past = earlier ++ event :: later ∧ begins event = true ∧ ∀ e ∈ later, ends e = false

section Standing

variable {β : Type} {begins ends : β → Bool} {past : List β}

/-- A list with a last entry is split around an entry: it is the last one, or it stands before. -/
theorem concat_eq_split {earlier later : List β} {last event : β}
    (split : past ++ [last] = earlier ++ event :: later) :
    (past = earlier ∧ last = event ∧ later = []) ∨
      ∃ middle, past = earlier ++ event :: middle ∧ later = middle ++ [last] := by
  rcases List.eq_nil_or_concat' later with rfl | ⟨middle, final, rfl⟩
  · obtain ⟨front, same⟩ := List.append_inj' split rfl
    exact .inl ⟨front, List.singleton_inj.mp same, rfl⟩
  · rw [show earlier ++ event :: (middle ++ [final]) = (earlier ++ event :: middle) ++ [final] by
      simp] at split
    obtain ⟨front, same⟩ := List.append_inj' split rfl
    exact .inr ⟨middle, front, by rw [List.singleton_inj.mp same]⟩

@[simp]
theorem not_standing_nil : ¬Standing begins ends [] := by
  rintro ⟨earlier, event, later, split, _⟩
  simp at split

theorem standing_concat (event : β) :
    Standing begins ends (past ++ [event]) ↔
      begins event = true ∨ (Standing begins ends past ∧ ends event = false) := by
  constructor
  · rintro ⟨earlier, first, later, split, begun, lasting⟩
    rcases concat_eq_split split with ⟨-, rfl, -⟩ | ⟨middle, rfl, rfl⟩
    · exact .inl begun
    · exact .inr ⟨⟨earlier, first, middle, rfl, begun, fun e member => lasting e (by simp [member])⟩,
        lasting event (by simp)⟩
  · rintro (begun | ⟨⟨earlier, first, later, rfl, begun, lasting⟩, kept⟩)
    · exact ⟨past, event, [], rfl, begun, by simp⟩
    · refine ⟨earlier, first, later ++ [event], by simp, begun, ?_⟩
      intro e member
      rcases List.mem_append.mp member with member | member
      · exact lasting e member
      · rw [List.mem_singleton.mp member]
        exact kept

/-- What does not stand any more was ended after each time that it began. -/
theorem exists_end_of_not_standing (ended : ¬Standing begins ends past) {earlier later : List β}
    {event : β} (split : past = earlier ++ event :: later) (begun : begins event = true) :
    ∃ last ∈ later, ends last = true := by
  by_contra lasting
  refine ended ⟨earlier, event, later, split, begun, fun e member => ?_⟩
  exact Bool.eq_false_iff.mpr fun ends_here => lasting ⟨e, member, ends_here⟩

end Standing

/-- What comes of the operations on a queue. -/
inductive Happening (ι : Type) where
  /-- An item is accepted: it was added, or it was delayed and its time has come. -/
  | arrival (item : ι)
  /-- An item is handed out. -/
  | handout (item : ι)
  /-- An item that was handed out is done. -/
  | release (item : ι)

namespace Happening

variable {ι : Type} [BEq ι]

/-- It is the arrival of an item. -/
def isArrival (item : ι) : Happening ι → Bool
  | .arrival x => x == item
  | _ => false

/-- It is the handout of an item. -/
def isHandout (item : ι) : Happening ι → Bool
  | .handout x => x == item
  | _ => false

/-- It is the release of an item. -/
def isRelease (item : ι) : Happening ι → Bool
  | .release x => x == item
  | _ => false

end Happening

/-- An item has arrived since it was last handed out. -/
def HasArrived {ι : Type} [BEq ι] (past : List (Happening ι)) (item : ι) : Prop :=
  Standing (Happening.isArrival item) (Happening.isHandout item) past

/-- An item was handed out and was not released since. -/
def InFlight {ι : Type} [BEq ι] (past : List (Happening ι)) (item : ι) : Prop :=
  Standing (Happening.isHandout item) (Happening.isRelease item) past

section History

variable {ι : Type} [BEq ι] {past : List (Happening ι)} {x item : ι}

@[simp]
theorem not_hasArrived_nil : ¬HasArrived [] item :=
  not_standing_nil

@[simp]
theorem hasArrived_concat_arrival :
    HasArrived (past ++ [.arrival x]) item ↔ (x == item) = true ∨ HasArrived past item := by
  simp [HasArrived, standing_concat, Happening.isArrival, Happening.isHandout]

@[simp]
theorem hasArrived_concat_handout :
    HasArrived (past ++ [.handout x]) item ↔ HasArrived past item ∧ (x == item) = false := by
  simp [HasArrived, standing_concat, Happening.isArrival, Happening.isHandout]

@[simp]
theorem hasArrived_concat_release :
    HasArrived (past ++ [.release x]) item ↔ HasArrived past item := by
  simp [HasArrived, standing_concat, Happening.isArrival, Happening.isHandout]

@[simp]
theorem not_inFlight_nil : ¬InFlight [] item :=
  not_standing_nil

@[simp]
theorem inFlight_concat_arrival :
    InFlight (past ++ [.arrival x]) item ↔ InFlight past item := by
  simp [InFlight, standing_concat, Happening.isHandout, Happening.isRelease]

@[simp]
theorem inFlight_concat_handout :
    InFlight (past ++ [.handout x]) item ↔ (x == item) = true ∨ InFlight past item := by
  simp [InFlight, standing_concat, Happening.isHandout, Happening.isRelease]

@[simp]
theorem inFlight_concat_release :
    InFlight (past ++ [.release x]) item ↔ InFlight past item ∧ (x == item) = false := by
  simp [InFlight, standing_concat, Happening.isHandout, Happening.isRelease]

/-- What has arrived since a handout of it arrived after that handout. -/
theorem HasArrived.after_handout {earlier between : List (Happening ι)} {handed : ι}
    (arrived : HasArrived (earlier ++ .handout handed :: between) item)
    (same : (handed == item) = true) : ∃ x, .arrival x ∈ between ∧ (x == item) = true := by
  induction between using List.reverseRecOn with
  | nil => simp [same] at arrived
  | append_singleton between last ih =>
      rw [← List.cons_append, ← List.append_assoc] at arrived
      have later (before : HasArrived (earlier ++ .handout handed :: between) item) :
          ∃ x, .arrival x ∈ between ++ [last] ∧ (x == item) = true := by
        obtain ⟨x, member, equal⟩ := ih before
        exact ⟨x, by simp [member], equal⟩
      cases last with
      | arrival x =>
          rcases hasArrived_concat_arrival.mp arrived with equal | before
          · exact ⟨x, by simp, equal⟩
          · exact later before
      | handout x => exact later (hasArrived_concat_handout.mp arrived).1
      | release x => exact later (hasArrived_concat_release.mp arrived)

end History

namespace WorkQueue

/-- An operation on a work queue. -/
inductive Operation (ι α : Type) where
  /-- An item is added. -/
  | add (item : ι)
  /-- An item is added with a delay. -/
  | addAfter (now : α) (item : ι) (delay : α)
  /-- A failed item is added again, to wait as the limiter says. -/
  | addRateLimited (now : α) (item : ι)
  /-- The failures of an item are forgotten. -/
  | forget (item : ι)
  /-- The clock has moved, and the delayed items that are due arrive. -/
  | advance (now : α)
  /-- An item is asked for. -/
  | get
  /-- An item is done. -/
  | done (item : ι)
  /-- The queue is closed. -/
  | close
  /-- The queue is closed, and is asked whether anything is left. -/
  | drain

variable {ι κ α : Type} [BEq ι] [BEq κ] [Keyed ι κ] [Quantity α]

/-- The queue after an operation. -/
def apply (q : WorkQueue ι κ α) : Operation ι α → WorkQueue ι κ α
  | .add item => q.add item
  | .addAfter now item delay => q.addAfter now item delay
  | .addRateLimited now item => (q.addRateLimited now item).2
  | .forget item => q.forget item
  | .advance now => q.deliver now
  | .get => q.get.2
  | .done item => q.done item
  | .close | .drain => q.close

/-- The items of an addition that is not put off; a closed queue accepts none. -/
def accepted (q : WorkQueue ι κ α) (item : ι) : List ι :=
  if q.closed then [] else [item]

/-- The items that an addition with a delay brings at once. -/
def acceptedAfter (q : WorkQueue ι κ α) (item : ι) (delay : α) : List ι :=
  if Quantity.atMost delay Quantity.zero then q.accepted item else []

/-- The delayed items whose time has come. -/
def due (q : WorkQueue ι κ α) (now : α) : List ι :=
  if q.closed then []
  else (q.waiting.takeWhile fun delayed => Quantity.atMost delayed.due now).map Delayed.item

/-- The items that arrive with an operation. -/
def arrivals (q : WorkQueue ι κ α) : Operation ι α → List ι
  | .add item => q.accepted item
  | .addAfter _ item delay => q.acceptedAfter item delay
  | .addRateLimited now item =>
    match (q.limiter.wait now item).1 with
    | .ok delay => q.acceptedAfter item delay
    | .error _ => []
  | .advance now => q.due now
  | .forget _ | .get | .done _ | .close | .drain => []

/-- What comes of an operation. -/
def happenings (q : WorkQueue ι κ α) : Operation ι α → List (Happening ι)
  | .get => q.get.1.item.toList.map .handout
  | .done item => [.release item]
  | operation => (q.arrivals operation).map .arrival

/-- The queue after a run. -/
def run (q : WorkQueue ι κ α) (operations : List (Operation ι α)) : WorkQueue ι κ α :=
  operations.foldl apply q

/-- What came of a run, in order. -/
def history (q : WorkQueue ι κ α) : List (Operation ι α) → List (Happening ι)
  | [] => []
  | operation :: operations => q.happenings operation ++ history (q.apply operation) operations

/-- Each item that is done was handed out before, and was not released since. -/
def Orderly (q : WorkQueue ι κ α) (operations : List (Operation ι α)) : Prop :=
  ∀ earlier item later,
    operations = earlier ++ .done item :: later → InFlight (q.history earlier) item

@[simp]
theorem run_concat (q : WorkQueue ι κ α) (operations : List (Operation ι α))
    (operation : Operation ι α) :
    q.run (operations ++ [operation]) = (q.run operations).apply operation := by
  simp [run]

theorem history_append (q : WorkQueue ι κ α) (first second : List (Operation ι α)) :
    q.history (first ++ second) = q.history first ++ (q.run first).history second := by
  induction first generalizing q with
  | nil => rfl
  | cons operation operations ih =>
      simp only [List.cons_append, history, ih, List.append_assoc]
      rfl

theorem history_concat (q : WorkQueue ι κ α) (operations : List (Operation ι α))
    (operation : Operation ι α) :
    q.history (operations ++ [operation]) =
      q.history operations ++ (q.run operations).happenings operation := by
  simp [history_append, history]

theorem orderly_concat (q : WorkQueue ι κ α) (operations : List (Operation ι α))
    (operation : Operation ι α) :
    q.Orderly (operations ++ [operation]) ↔
      q.Orderly operations ∧
        ∀ item, operation = .done item → InFlight (q.history operations) item := by
  constructor
  · intro orderly
    constructor
    · rintro earlier item later rfl
      exact orderly earlier item (later ++ [operation]) (by simp)
    · rintro item rfl
      exact orderly operations item [] rfl
  · rintro ⟨orderly, last⟩ earlier item later split
    rcases concat_eq_split split with ⟨rfl, rfl, -⟩ | ⟨middle, rfl, -⟩
    · exact last item rfl
    · exact orderly earlier item middle rfl

theorem Orderly.of_append {q : WorkQueue ι κ α} {first : List (Operation ι α)}
    (second : List (Operation ι α)) (orderly : q.Orderly (first ++ second)) : q.Orderly first := by
  rintro earlier item later rfl
  exact orderly earlier item (later ++ second) (by simp)

omit [BEq κ] [Keyed ι κ] [Quantity α] in
theorem add_eq_foldl_arrive (q : WorkQueue ι κ α) (item : ι) :
    q.add item = (q.accepted item).foldl arrive q := by
  unfold add accepted
  split <;> rfl

omit [BEq κ] [Keyed ι κ] in
theorem addAfter_eq_foldl_arrive (q : WorkQueue ι κ α) (now : α) (item : ι) (delay : α) :
    ∃ waiting, q.addAfter now item delay =
      (q.acceptedAfter item delay).foldl arrive { q with waiting } := by
  unfold addAfter acceptedAfter
  split
  · exact ⟨q.waiting, q.add_eq_foldl_arrive item⟩
  · split
    · exact ⟨q.waiting, rfl⟩
    · exact ⟨_, rfl⟩

/-- The operations other than handing out and releasing change what does not count for the items at
hand, and then let items arrive one by one. -/
theorem apply_eq_foldl_arrive (q : WorkQueue ι κ α) {operation : Operation ι α}
    (not_get : operation ≠ .get) (not_done : ∀ item, operation ≠ .done item) :
    ∃ limiter waiting closed,
      q.apply operation =
        (q.arrivals operation).foldl arrive { q with limiter, waiting, closed } := by
  cases operation with
  | add item => exact ⟨q.limiter, q.waiting, q.closed, q.add_eq_foldl_arrive item⟩
  | addAfter now item delay =>
      obtain ⟨waiting, result⟩ := q.addAfter_eq_foldl_arrive now item delay
      exact ⟨q.limiter, waiting, q.closed, result⟩
  | addRateLimited now item =>
      simp only [apply, addRateLimited, arrivals]
      generalize q.limiter.wait now item = answer
      obtain ⟨_ | delay, limiter⟩ := answer
      · exact ⟨limiter, q.waiting, q.closed, rfl⟩
      · obtain ⟨waiting, result⟩ :=
          addAfter_eq_foldl_arrive { q with limiter } now item delay
        exact ⟨limiter, waiting, q.closed, result⟩
  | forget item => exact ⟨q.limiter.forget item, q.waiting, q.closed, rfl⟩
  | advance now =>
      simp only [apply, deliver, arrivals, due]
      split
      · exact ⟨q.limiter, q.waiting, q.closed, rfl⟩
      · exact ⟨q.limiter, _, q.closed, by rw [List.foldl_map]⟩
  | get => exact (not_get rfl).elim
  | done item => exact (not_done item rfl).elim
  | close => exact ⟨q.limiter, [], true, rfl⟩
  | drain => exact ⟨q.limiter, [], true, rfl⟩

end WorkQueue

end Reconciler
