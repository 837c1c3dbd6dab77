import Mathlib.Data.List.Pairwise
import Mathlib.Data.List.TakeWhile
import Mathlib.Tactic.Tauto
import Reconciler.Proofs.WorkQueue.Run

/-!
# Consistency of a work queue

The parts of a work queue that say where an item is: the queued items, those that have come, those
that are being processed, the busy keys and the gauge.  What holds between them is kept when an item
arrives, when one is handed out, and when one that is being processed is done.
-/

namespace Reconciler.WorkQueue

variable {ι κ α : Type} [BEq ι] [BEq κ] [Keyed ι κ]

/-- The parts of a queue agree about where each item is. -/
structure Consistent (q : WorkQueue ι κ α) : Prop where
  /-- No item is queued twice. -/
  queue_distinct : q.queue.Pairwise fun a b => (a == b) = false
  /-- A queued item has come and was not handed out since. -/
  queue_dirty : ∀ item ∈ q.queue, q.dirty.contains item = true
  /-- A queued item is not being processed. -/
  queue_idle : ∀ item ∈ q.queue, q.processing.contains item = false
  /-- An item that has come is queued or being processed. -/
  dirty_held : ∀ item ∈ q.dirty,
    q.queue.contains item = true ∨ q.processing.contains item = true
  /-- The busy keys are the keys of the items that are being processed. -/
  busy_iff : ∀ key, q.busy.contains key = true ↔
    ∃ item ∈ q.processing, (Keyed.key item == key) = true
  /-- No two items that are being processed have the same key. -/
  processing_apart : q.processing.Pairwise fun a b => (Keyed.key a == Keyed.key b) = false
  /-- The gauge shows the number of queued items. -/
  depth_eq : q.depth = q.queue.length

/-! ## What the steps do -/

omit [BEq κ] [Keyed ι κ] in
theorem arrive_cases (q : WorkQueue ι κ α) (item : ι) :
    (q.dirty.contains item = true ∧ q.arrive item = q) ∨
      (q.dirty.contains item = false ∧ q.processing.contains item = true ∧
        q.arrive item = { q with dirty := q.dirty ++ [item] }) ∨
      (q.dirty.contains item = false ∧ q.processing.contains item = false ∧
        q.arrive item =
          { q with
            dirty := q.dirty ++ [item]
            queue := q.queue ++ [item]
            depth := (q.queue ++ [item]).length }) := by
  unfold arrive
  split
  next known => exact .inl ⟨known, rfl⟩
  next unknown =>
    have unknown : q.dirty.contains item = false := by simpa using unknown
    dsimp only
    split
    next running => exact .inr (.inl ⟨unknown, running, rfl⟩)
    next idle => exact .inr (.inr ⟨unknown, by simpa using idle, rfl⟩)

omit [BEq κ] [Keyed ι κ] in
@[simp]
theorem arrive_processing (q : WorkQueue ι κ α) (item : ι) :
    (q.arrive item).processing = q.processing := by
  rcases q.arrive_cases item with ⟨-, result⟩ | ⟨-, -, result⟩ | ⟨-, -, result⟩ <;> rw [result]

omit [BEq κ] [Keyed ι κ] in
theorem foldl_arrive_processing (q : WorkQueue ι κ α) (items : List ι) :
    (items.foldl arrive q).processing = q.processing := by
  induction items generalizing q with
  | nil => rfl
  | cons item items ih => rw [List.foldl_cons, ih, arrive_processing]

omit [BEq κ] [Keyed ι κ] in
theorem arrive_dirty [EquivBEq ι] (q : WorkQueue ι κ α) (item x : ι) :
    (q.arrive item).dirty.contains x = true ↔
      (item == x) = true ∨ q.dirty.contains x = true := by
  rcases q.arrive_cases item with ⟨known, result⟩ | ⟨-, -, result⟩ | ⟨-, -, result⟩
  · rw [result]
    refine ⟨.inr, ?_⟩
    rintro (same | come)
    · rwa [← List.contains_congr same]
    · exact come
  · rw [result]
    simp [List.contains_append, BEq.comm, or_comm]
  · rw [result]
    simp [List.contains_append, BEq.comm, or_comm]

omit [BEq κ] [Keyed ι κ] in
theorem foldl_arrive_dirty [EquivBEq ι] (q : WorkQueue ι κ α) (items : List ι) (x : ι) :
    (items.foldl arrive q).dirty.contains x = true ↔
      items.contains x = true ∨ q.dirty.contains x = true := by
  induction items generalizing q with
  | nil => simp
  | cons item items ih =>
      rw [List.foldl_cons, ih, arrive_dirty, List.contains_cons, Bool.or_eq_true, BEq.comm]
      tauto

omit [BEq κ] [Keyed ι κ] in
/-- A delayed item has come once it is due, like all others, before the queue is closed. -/
theorem deliver_dirty_of_due [EquivBEq ι] [Quantity α] {q : WorkQueue ι κ α}
    (running : q.closed = false) {now : α}
    (due : ∀ delayed ∈ q.waiting, Quantity.atMost delayed.due now = true)
    {delayed : Delayed ι α} (waits : delayed ∈ q.waiting) :
    (q.deliver now).dirty.contains delayed.item = true := by
  have all_due : q.waiting.takeWhile (fun delayed => Quantity.atMost delayed.due now) = q.waiting :=
    List.takeWhile_eq_self_iff.mpr due
  unfold deliver
  rw [if_neg (by simp [running]), ← List.foldl_map (f := Delayed.item), foldl_arrive_dirty, all_due]
  exact .inl (List.elem_eq_true_of_mem (List.mem_map_of_mem waits))

/-- The first queued item whose key is not busy is handed out, or all queued items are busy. -/
theorem get_cases (q : WorkQueue ι κ α) :
    (∃ front item rest,
      q.queue = front ++ item :: rest ∧ (∀ x ∈ front, q.isBusy x = true) ∧ q.isBusy item = false ∧
        q.get = (⟨some item, false⟩, q.take item) ∧ (q.take item).queue = front ++ rest) ∨
      ((∀ x ∈ q.queue, q.isBusy x = true) ∧
        q.get = (⟨none, q.closed && q.queue.isEmpty⟩, q)) := by
  unfold get
  split
  next item found =>
    obtain ⟨free, front, rest, split, busy⟩ := List.find?_eq_some_iff_append.mp found
    have front_busy : ∀ x ∈ front, ¬(!q.isBusy x) = true := by simpa using busy
    refine .inl ⟨front, item, rest, split, by simpa using busy, by simpa using free, rfl, ?_⟩
    change q.queue.eraseP _ = _
    rw [split, List.eraseP_append_right (item :: rest) front_busy]
    simp [free]
  next none_free =>
    exact .inr ⟨by simpa using none_free, rfl⟩

/-- A queue with an item that could be handed out hands one out. -/
theorem exists_handed {q : WorkQueue ι κ α} {item : ι} (queued : item ∈ q.queue)
    (free : q.isBusy item = false) : ∃ first, q.get.1.item = some first := by
  rcases q.get_cases with ⟨-, first, -, -, -, -, answer, -⟩ | ⟨all_busy, -⟩
  · exact ⟨first, by rw [answer]⟩
  · rw [all_busy item queued] at free
    contradiction

theorem contains_erased [EquivBEq ι] {items : List ι} {item x : ι} :
    (items.filter fun y => !y == item).contains x = true ↔
      items.contains x = true ∧ (x == item) = false := by
  simp only [List.contains_iff_exists_mem_beq, List.mem_filter]
  constructor
  · rintro ⟨y, ⟨member, other⟩, same⟩
    refine ⟨⟨y, member, same⟩, ?_⟩
    rw [BEq.congr_left same]
    simpa using other
  · rintro ⟨⟨y, member, same⟩, other⟩
    refine ⟨y, ⟨member, ?_⟩, same⟩
    rw [← BEq.congr_left same]
    simpa using other

/-! ## What is kept -/

namespace Consistent

variable {q : WorkQueue ι κ α}

theorem empty (limiter : RateLimiter ι α) : (empty limiter : WorkQueue ι κ α).Consistent := by
  constructor <;> simp [WorkQueue.empty]

/-- Nothing depends on the limiter, the delayed items and whether the queue is closed. -/
theorem with_frame (consistent : q.Consistent) (limiter : RateLimiter ι α)
    (waiting : List (Delayed ι α)) (closed : Bool) :
    Consistent { q with limiter, waiting, closed } :=
  ⟨consistent.queue_distinct, consistent.queue_dirty, consistent.queue_idle,
    consistent.dirty_held, consistent.busy_iff, consistent.processing_apart, consistent.depth_eq⟩

theorem arrive [EquivBEq ι] (consistent : q.Consistent) (item : ι) :
    (q.arrive item).Consistent := by
  rcases q.arrive_cases item with ⟨-, result⟩ | ⟨-, running, result⟩ | ⟨unknown, idle, result⟩
  · rw [result]
    exact consistent
  · rw [result]
    refine { consistent with queue_dirty := ?_, dirty_held := ?_ }
    · intro x member
      simp [List.contains_append, consistent.queue_dirty x member]
    · intro x member
      rcases List.mem_append.mp member with member | member
      · exact consistent.dirty_held x member
      · rw [List.mem_singleton.mp member]
        exact .inr running
  · rw [result]
    refine { consistent with
      queue_distinct := ?_, queue_dirty := ?_, queue_idle := ?_, dirty_held := ?_, depth_eq := rfl }
    · have other : ∀ x ∈ q.queue, (x == item) = false := by
        refine fun x member => Bool.eq_false_iff.mpr fun same => ?_
        have known := consistent.queue_dirty x member
        rw [List.contains_congr same, unknown] at known
        simp at known
      simpa [List.pairwise_append, consistent.queue_distinct] using other
    · intro x member
      rcases List.mem_append.mp member with member | member
      · simp [List.contains_append, consistent.queue_dirty x member]
      · simp [List.mem_singleton.mp member]
    · intro x member
      rcases List.mem_append.mp member with member | member
      · exact consistent.queue_idle x member
      · rw [List.mem_singleton.mp member]
        exact idle
    · intro x member
      rcases List.mem_append.mp member with member | member
      · rcases consistent.dirty_held x member with queued | running
        · simp [List.contains_append, queued]
        · exact .inr running
      · simp [List.mem_singleton.mp member]

theorem foldl_arrive [EquivBEq ι] (consistent : q.Consistent) (items : List ι) :
    (items.foldl WorkQueue.arrive q).Consistent := by
  induction items generalizing q with
  | nil => exact consistent
  | cons item items ih => exact ih (consistent.arrive item)

theorem key_ne_of_free (consistent : q.Consistent) {item : ι} (free : q.isBusy item = false) :
    ∀ x ∈ q.processing, (Keyed.key x == Keyed.key item) = false := by
  refine fun x running => Bool.eq_false_iff.mpr fun same => ?_
  rw [isBusy, (consistent.busy_iff (Keyed.key item)).mpr ⟨x, running, same⟩] at free
  simp at free

variable [EquivBEq κ]

theorem idle_of_free [LawfulKeyed ι κ] (consistent : q.Consistent) {item : ι}
    (free : q.isBusy item = false) : q.processing.contains item = false := by
  refine Bool.eq_false_iff.mpr fun running => ?_
  obtain ⟨x, member, same⟩ := List.contains_iff_exists_mem_beq.mp running
  have apart := consistent.key_ne_of_free free x member
  rw [BEq.symm (LawfulKeyed.key_beq same)] at apart
  simp at apart

variable [EquivBEq ι]

/-- Two items that are being processed and are not equal have different keys. -/
theorem key_ne (consistent : q.Consistent) {x y : ι} (x_running : x ∈ q.processing)
    (y_running : y ∈ q.processing) (other : (x == y) = false) :
    (Keyed.key x == Keyed.key y) = false := by
  have : Std.Symm fun a b : ι => (Keyed.key a == Keyed.key b) = false :=
    ⟨fun _ _ apart => BEq.symm_false apart⟩
  refine consistent.processing_apart.forall x_running y_running ?_
  rintro rfl
  simp at other

variable [LawfulKeyed ι κ]

theorem get (consistent : q.Consistent) : q.get.2.Consistent := by
  rcases q.get_cases with ⟨front, item, rest, split, -, free, answer, left⟩ | ⟨-, answer⟩
  · rw [answer]
    have idle := consistent.idle_of_free free
    have apart := consistent.queue_distinct
    rw [split, List.pairwise_append] at apart
    obtain ⟨-, rest_apart, front_apart⟩ := apart
    have member_of {x : ι} (member : x ∈ front ++ rest) : x ∈ q.queue ∧ (x == item) = false := by
      rw [split]
      rcases List.mem_append.mp member with member | member
      · exact ⟨by simp [member], front_apart x member item (by simp)⟩
      · exact ⟨by simp [member], BEq.symm_false ((List.pairwise_cons.mp rest_apart).1 x member)⟩
    have processing : (q.take item).processing = q.processing ++ [item] := by
      simp [take, gauged, idle]
    have busy : (q.take item).busy = q.busy ++ [Keyed.key item] := by
      simp [take, gauged, free]
    constructor
    · rw [left]
      refine consistent.queue_distinct.sublist ?_
      rw [split]
      exact (List.Sublist.refl front).append (List.sublist_cons_self item rest)
    · rw [left]
      intro x member
      obtain ⟨queued, other⟩ := member_of member
      exact contains_erased.mpr ⟨consistent.queue_dirty x queued, other⟩
    · rw [left, processing]
      intro x member
      obtain ⟨queued, other⟩ := member_of member
      simp [List.contains_append, consistent.queue_idle x queued, other]
    · rw [left, processing]
      intro x member
      obtain ⟨come, other⟩ := List.mem_filter.mp member
      have other : (x == item) = false := by simpa using other
      rcases consistent.dirty_held x come with queued | running
      · left
        rw [split] at queued
        simpa [List.contains_append, other] using queued
      · right
        simp [List.contains_append, running]
    · rw [busy, processing]
      intro key
      simp [List.contains_append, consistent.busy_iff, or_and_right, exists_or, BEq.comm]
    · rw [processing]
      simpa [List.pairwise_append, consistent.processing_apart]
        using consistent.key_ne_of_free free
    · rfl
  · rw [answer]
    exact consistent

/-- The keys that stay busy after a release are those of the other items. -/
theorem busy_iff_of_release (consistent : q.Consistent) {item : ι}
    (running : q.processing.contains item = true) (key : κ) :
    (q.busy.filter fun k => !k == Keyed.key item).contains key = true ↔
      ∃ x ∈ q.processing.filter fun y => !y == item, (Keyed.key x == key) = true := by
  rw [contains_erased, consistent.busy_iff]
  constructor
  · rintro ⟨⟨x, member, same⟩, other⟩
    refine ⟨x, List.mem_filter.mpr ⟨member, ?_⟩, same⟩
    have different : (x == item) = false := by
      refine Bool.eq_false_iff.mpr fun equal => ?_
      rw [← BEq.congr_left same, LawfulKeyed.key_beq equal] at other
      simp at other
    simp [different]
  · rintro ⟨x, member, same⟩
    obtain ⟨member, other⟩ := List.mem_filter.mp member
    obtain ⟨y, y_running, equal⟩ := List.contains_iff_exists_mem_beq.mp running
    have apart : (x == y) = false := by
      rw [← BEq.congr_right equal]
      simpa using other
    refine ⟨⟨x, member, same⟩, ?_⟩
    rw [← BEq.congr_left same, BEq.congr_right (LawfulKeyed.key_beq equal)]
    exact consistent.key_ne member y_running apart

theorem done (consistent : q.Consistent) {item : ι} (running : q.processing.contains item = true) :
    (q.done item).Consistent := by
  have not_queued : ∀ x ∈ q.queue, (x == item) = false := by
    refine fun x queued => Bool.eq_false_iff.mpr fun same => ?_
    have idle := consistent.queue_idle x queued
    rw [List.contains_congr same, running] at idle
    simp at idle
  have queue_idle : ∀ x ∈ q.queue, (q.processing.filter fun y => !y == item).contains x = false := by
    refine fun x queued => Bool.eq_false_iff.mpr fun still => ?_
    have idle := consistent.queue_idle x queued
    rw [(contains_erased.mp still).1] at idle
    simp at idle
  have processing_apart :
      (q.processing.filter fun y => !y == item).Pairwise
        fun a b => (Keyed.key a == Keyed.key b) = false :=
    consistent.processing_apart.sublist List.filter_sublist
  have dirty_held : ∀ x ∈ q.dirty, (x == item) = false →
      q.queue.contains x = true ∨ (q.processing.filter fun y => !y == item).contains x = true := by
    intro x come other
    rcases consistent.dirty_held x come with queued | running
    · exact .inl queued
    · exact .inr (contains_erased.mpr ⟨running, other⟩)
  unfold WorkQueue.done
  dsimp only
  split
  next come =>
    refine ⟨?_, ?_, ?_, ?_, consistent.busy_iff_of_release running, processing_apart, rfl⟩
    · simpa [gauged, List.pairwise_append, consistent.queue_distinct] using not_queued
    · intro x member
      rcases List.mem_append.mp member with queued | same
      · exact consistent.queue_dirty x queued
      · rw [List.mem_singleton.mp same]
        exact come
    · intro x member
      rcases List.mem_append.mp member with queued | same
      · exact queue_idle x queued
      · rw [List.mem_singleton.mp same]
        refine Bool.eq_false_iff.mpr fun still => ?_
        simpa using (contains_erased.mp still).2
    · intro x member
      by_cases same : (x == item) = true
      · exact .inl (by simp [gauged, List.contains_append, same])
      · rcases dirty_held x member (by simpa using same) with queued | running
        · exact .inl (by simp [gauged, List.contains_append, queued])
        · exact .inr running
  next absent =>
    refine ⟨consistent.queue_distinct, consistent.queue_dirty, queue_idle, ?_,
      consistent.busy_iff_of_release running, processing_apart, consistent.depth_eq⟩
    intro x member
    refine dirty_held x member (Bool.eq_false_iff.mpr fun same => absent ?_)
    exact List.contains_iff_exists_mem_beq.mpr ⟨x, member, BEq.symm same⟩

end Consistent

/-- An item that is handed out was not being processed, and is from then on. -/
theorem Consistent.get_processing [EquivBEq ι] [EquivBEq κ] [LawfulKeyed ι κ] {q : WorkQueue ι κ α}
    (consistent : q.Consistent) {item : ι} (handed : q.get.1.item = some item) :
    q.processing.contains item = false ∧ q.get.2.processing = q.processing ++ [item] := by
  rcases q.get_cases with ⟨front, x, rest, -, -, free, answer, -⟩ | ⟨-, answer⟩
  · rw [answer] at handed ⊢
    obtain rfl : x = item := Option.some.inj handed
    have idle := consistent.idle_of_free free
    exact ⟨idle, if_neg (by simp [idle])⟩
  · rw [answer] at handed
    contradiction

theorem done_processing (q : WorkQueue ι κ α) (item : ι) :
    (q.done item).processing = q.processing.filter fun x => !x == item := by
  unfold done
  dsimp only
  split <;> rfl

theorem done_frame (q : WorkQueue ι κ α) (item : ι) :
    (q.done item).dirty = q.dirty ∧ (q.done item).waiting = q.waiting ∧
      (q.done item).closed = q.closed := by
  unfold done
  dsimp only
  split <;> exact ⟨rfl, rfl, rfl⟩

theorem done_forget (q : WorkQueue ι κ α) (item x : ι) :
    (q.forget item).done x = (q.done x).forget item := by
  unfold done
  dsimp only [forget]
  split <;> rfl

/-- Once an item is done, no item of its key is being processed. -/
theorem Consistent.key_ne_of_done [EquivBEq ι] [EquivBEq κ] [LawfulKeyed ι κ] {q : WorkQueue ι κ α}
    (consistent : q.Consistent) {item : ι} (running : q.processing.contains item = true) :
    ∀ x ∈ (q.done item).processing, (Keyed.key x == Keyed.key item) = false := by
  intro x member
  rw [done_processing, List.mem_filter] at member
  obtain ⟨x_running, other⟩ := member
  obtain ⟨y, y_running, same⟩ := List.contains_iff_exists_mem_beq.mp running
  have apart : (x == y) = false := by
    rw [← BEq.congr_right same]
    simpa using other
  rw [BEq.congr_right (LawfulKeyed.key_beq same)]
  exact consistent.key_ne x_running y_running apart

/-- What is handed out and done again without further arrivals has left the queue. -/
theorem Consistent.handed_and_done [EquivBEq ι] [EquivBEq κ] [LawfulKeyed ι κ]
    {q : WorkQueue ι κ α} (consistent : q.Consistent) {item : ι}
    (handed : q.get.1.item = some item) :
    ∃ front rest,
      q.queue = front ++ item :: rest ∧ (q.get.2.done item).queue = front ++ rest ∧
        ∀ x ∈ (q.get.2.done item).processing, x ∈ q.processing := by
  obtain ⟨idle, processing_eq⟩ := consistent.get_processing handed
  rcases q.get_cases with ⟨front, first, rest, split, -, -, answer, left⟩ | ⟨-, answer⟩
  · rw [answer] at handed
    obtain rfl : first = item := Option.some.inj handed
    refine ⟨front, rest, split, ?_, fun x member => ?_⟩
    · have absent : (q.take first).dirty.contains first = false := by
        refine Bool.eq_false_iff.mpr fun come => ?_
        simpa using (contains_erased.mp come).2
      rw [answer, ← left]
      unfold WorkQueue.done
      dsimp only
      rw [if_neg (by simp [absent])]
    · rw [done_processing, processing_eq, List.mem_filter, List.mem_append,
        List.mem_singleton] at member
      obtain ⟨earlier | rfl, other⟩ := member
      · exact earlier
      · simp at other
  · rw [answer] at handed
    contradiction

/-- The operations other than handing out and releasing leave the items that are being processed, and
keep a queue consistent. -/
theorem filling [EquivBEq ι] [Quantity α] (q : WorkQueue ι κ α) (operation : Operation ι α)
    (not_get : operation ≠ .get) (not_done : ∀ item, operation ≠ .done item) :
    (q.apply operation).processing = q.processing ∧
      (q.Consistent → (q.apply operation).Consistent) := by
  obtain ⟨limiter, waiting, closed, result⟩ := q.apply_eq_foldl_arrive not_get not_done
  rw [result, foldl_arrive_processing]
  exact ⟨rfl, fun consistent => (consistent.with_frame limiter waiting closed).foldl_arrive _⟩

end Reconciler.WorkQueue
