import Mathlib.Data.List.Induction
import Reconciler.Proofs.WorkQueue.Draining

/-!
# Delayed items

An item that is added with a delay is put off until its time has come.  Numbered in the order in which they
were put off, the items that wait stand in the order of their times and then of their numbers; so what an
advance of the clock delivers is in this order, and nothing that is due is left behind.  Each item that was
put off is delivered once or still waits, until the queue is closed and drops those that wait.
-/

namespace Reconciler

variable {ι κ α : Type}

namespace Delayed

/-- The delayed item with a number. -/
def numbered (number : Nat) (delayed : Delayed ι α) : Delayed (ι × Nat) α :=
  ⟨delayed.due, (delayed.item, number)⟩

/-- The delayed item without its number. -/
def plain (delayed : Delayed (ι × Nat) α) : Delayed ι α :=
  ⟨delayed.due, delayed.item.1⟩

/-- One item is due before another one, or at the same time and has the lesser number. -/
def Before [Quantity α] (a b : Delayed (ι × Nat) α) : Prop :=
  Quantity.atMost a.due b.due = true ∧ (Quantity.atMost b.due a.due = true → a.item.2 < b.item.2)

end Delayed

/-- The times are in a total order. -/
structure Ordered [Quantity α] (times : List α) : Prop where
  /-- Of two times one is at most the other. -/
  total : ∀ a ∈ times, ∀ b ∈ times, Quantity.atMost a b = true ∨ Quantity.atMost b a = true
  /-- The order passes from one time to the next. -/
  trans : ∀ a ∈ times, ∀ b ∈ times, ∀ c ∈ times,
    Quantity.atMost a b = true → Quantity.atMost b c = true → Quantity.atMost a c = true

theorem Ordered.mono [Quantity α] {times some_times : List α} (ordered : Ordered times)
    (subset : some_times ⊆ times) : Ordered some_times where
  total a a_mem b b_mem := ordered.total a (subset a_mem) b (subset b_mem)
  trans a a_mem b b_mem c c_mem := ordered.trans a (subset a_mem) b (subset b_mem) c (subset c_mem)

/-- Exact fractions are in a total order. -/
theorem ordered_rat (times : List Rat) : Ordered times where
  total a _ b _ := by simpa [Quantity.atMost] using Rat.le_total
  trans a _ b _ c _ := by simpa [Quantity.atMost] using Rat.le_trans

namespace WorkQueue

/-! ## The list of delayed items -/

section Schedule

variable [Quantity α]

theorem map_plain_schedule (delayed : Delayed (ι × Nat) α) (waiting : List (Delayed (ι × Nat) α)) :
    (schedule delayed waiting).map .plain = schedule delayed.plain (waiting.map .plain) := by
  induction waiting with
  | nil => rfl
  | cons first rest ih =>
      rw [List.map_cons, schedule, schedule, ← ih]
      exact apply_ite (List.map Delayed.plain) ..

theorem schedule_perm (delayed : Delayed ι α) (waiting : List (Delayed ι α)) :
    (schedule delayed waiting).Perm (delayed :: waiting) := by
  induction waiting with
  | nil => exact .refl _
  | cons first rest ih =>
      unfold schedule
      split
      · exact (ih.cons first).trans (.swap ..)
      · exact .refl _

/-- A delayed item with the greatest number is put in its place. -/
theorem pairwise_schedule {delayed : Delayed (ι × Nat) α} {waiting : List (Delayed (ι × Nat) α)}
    (ordered : Ordered ((delayed :: waiting).map Delayed.due)) (sorted : waiting.Pairwise Delayed.Before)
    (latest : ∀ other ∈ waiting, other.item.2 < delayed.item.2) :
    (schedule delayed waiting).Pairwise Delayed.Before := by
  induction waiting with
  | nil => exact List.pairwise_singleton ..
  | cons first rest ih =>
      obtain ⟨first_before, rest_sorted⟩ := List.pairwise_cons.mp sorted
      obtain ⟨first_number, rest_latest⟩ := List.forall_mem_cons.mp latest
      unfold schedule
      split
      next no_later =>
        have rest_ordered : Ordered ((delayed :: rest).map Delayed.due) :=
          ordered.mono (List.map_subset _ (List.cons_subset_cons _ (List.subset_cons_self ..)))
        refine List.pairwise_cons.mpr ⟨fun other member => ?_, ih rest_ordered rest_sorted rest_latest⟩
        rcases List.mem_cons.mp ((schedule_perm delayed rest).mem_iff.mp member) with rfl | later
        · exact ⟨no_later, fun _ => first_number⟩
        · exact first_before other later
      next later =>
        have times (other) (member : other ∈ delayed :: first :: rest) :
            other.due ∈ (delayed :: first :: rest).map Delayed.due := List.mem_map_of_mem member
        have ahead : Quantity.atMost delayed.due first.due = true :=
          (ordered.total _ (times delayed (by simp)) _ (times first (by simp))).resolve_right later
        refine List.pairwise_cons.mpr ⟨fun other member => ?_, sorted⟩
        rcases List.mem_cons.mp member with rfl | behind
        · exact ⟨ahead, fun back => absurd back later⟩
        · have after := (first_before other behind).1
          have other_time := times other (by simp [behind])
          refine ⟨ordered.trans _ (times delayed (by simp)) _ (times first (by simp)) _ other_time
            ahead after, fun back => absurd ?_ later⟩
          exact ordered.trans _ (times first (by simp)) _ other_time _ (times delayed (by simp))
            after back

/-- Where the first of some ordered items is not due, none is. -/
theorem not_due_of_mem_dropWhile {now : α} {waiting : List (Delayed ι α)}
    (ordered : Ordered (now :: waiting.map Delayed.due))
    (sorted : waiting.Pairwise fun a b => Quantity.atMost a.due b.due = true) :
    ∀ delayed ∈ waiting.dropWhile fun delayed => Quantity.atMost delayed.due now,
      Quantity.atMost delayed.due now = false := by
  induction waiting with
  | nil => simp
  | cons first rest ih =>
      obtain ⟨first_before, rest_sorted⟩ := List.pairwise_cons.mp sorted
      rw [List.dropWhile_cons]
      split
      next => exact ih (ordered.mono (by simp)) rest_sorted
      next ahead =>
        intro delayed member
        rcases List.mem_cons.mp member with rfl | behind
        · exact Bool.eq_false_iff.mpr ahead
        · have time : delayed.due ∈ now :: (first :: rest).map Delayed.due :=
            List.mem_cons_of_mem _ (List.mem_map_of_mem member)
          refine Bool.eq_false_iff.mpr fun is_due => ahead ?_
          exact ordered.trans _ (by simp) _ time _ (by simp) (first_before delayed behind) is_due

end Schedule

/-! ## What the operations do to delayed items -/

variable [BEq ι] [BEq κ] [Keyed ι κ] [Quantity α]

/-- The delayed items that an addition with a delay puts off. -/
def putOffAfter (q : WorkQueue ι κ α) (now : α) (item : ι) (delay : α) : List (Delayed ι α) :=
  if Quantity.atMost delay Quantity.zero || q.closed then [] else [⟨now + delay, item⟩]

/-- The delayed items that an operation puts off. -/
def putOff (q : WorkQueue ι κ α) : Operation ι α → List (Delayed ι α)
  | .addAfter now item delay => q.putOffAfter now item delay
  | .addRateLimited now item =>
    match (q.limiter.wait now item).1 with
    | .ok delay => q.putOffAfter now item delay
    | .error _ => []
  | .add _ | .forget _ | .advance _ | .get | .done _ | .close | .drain => []

/-- The delayed items that an operation delivers, in order. -/
def delivered (q : WorkQueue ι κ α) : Operation ι α → List (Delayed ι α)
  | .advance now =>
    if q.closed then [] else q.waiting.takeWhile fun delayed => Quantity.atMost delayed.due now
  | .add _ | .addAfter _ _ _ | .addRateLimited _ _ | .forget _ | .get | .done _ | .close
  | .drain => []

omit [BEq κ] [Keyed ι κ] [Quantity α] in
theorem arrive_frame (q : WorkQueue ι κ α) (item : ι) :
    (q.arrive item).waiting = q.waiting ∧ (q.arrive item).closed = q.closed := by
  rcases q.arrive_cases item with ⟨-, result⟩ | ⟨-, -, result⟩ | ⟨-, -, result⟩ <;> rw [result] <;>
    exact ⟨rfl, rfl⟩

omit [BEq κ] [Keyed ι κ] [Quantity α] in
theorem add_frame (q : WorkQueue ι κ α) (item : ι) :
    (q.add item).waiting = q.waiting ∧ (q.add item).closed = q.closed := by
  unfold add
  split
  · exact ⟨rfl, rfl⟩
  · exact q.arrive_frame item

omit [BEq κ] [Keyed ι κ] [Quantity α] in
theorem foldl_arrive_frame (q : WorkQueue ι κ α) (arrivals : List (Delayed ι α)) :
    (arrivals.foldl (fun q delayed => q.arrive delayed.item) q).waiting = q.waiting ∧
      (arrivals.foldl (fun q delayed => q.arrive delayed.item) q).closed = q.closed := by
  induction arrivals generalizing q with
  | nil => exact ⟨rfl, rfl⟩
  | cons first rest ih =>
      obtain ⟨waiting_eq, closed_eq⟩ := ih (q.arrive first.item)
      obtain ⟨first_waiting_eq, first_closed_eq⟩ := q.arrive_frame first.item
      exact ⟨waiting_eq.trans first_waiting_eq, closed_eq.trans first_closed_eq⟩

omit [BEq κ] [Keyed ι κ] in
theorem addAfter_cases (q : WorkQueue ι κ α) (now : α) (item : ι) (delay : α) :
    (q.putOffAfter now item delay = [] ∧ (q.addAfter now item delay).waiting = q.waiting ∨
      q.closed = false ∧ q.putOffAfter now item delay = [⟨now + delay, item⟩] ∧
        (q.addAfter now item delay).waiting = schedule ⟨now + delay, item⟩ q.waiting) ∧
      (q.addAfter now item delay).closed = q.closed := by
  unfold putOffAfter addAfter
  cases Quantity.atMost delay (Quantity.zero : α) with
  | true => exact ⟨.inl ⟨rfl, (q.add_frame item).1⟩, (q.add_frame item).2⟩
  | false =>
      cases closed : q.closed with
      | true => exact ⟨.inl ⟨rfl, rfl⟩, closed⟩
      | false => exact ⟨.inr ⟨rfl, rfl, rfl⟩, rfl⟩

theorem advance_frame {q : WorkQueue ι κ α} (accepting : q.closed = false) (now : α) :
    (q.apply (.advance now)).waiting =
        (q.waiting.dropWhile fun delayed => Quantity.atMost delayed.due now) ∧
      (q.apply (.advance now)).closed = q.closed := by
  have result : q.apply (.advance now) = _ := if_neg (Bool.eq_false_iff.mp accepting)
  rw [result]
  exact foldl_arrive_frame { q with waiting := _ } _

/-- What an operation other than closing does to the delayed items: it leaves them, it puts one off, or it
delivers those that are due. -/
inductive Delays (q : WorkQueue ι κ α) (operation : Operation ι α) : Prop where
  /-- The delayed items stay. -/
  | none (put_off : q.putOff operation = []) (delivers : q.delivered operation = [])
      (waiting_eq : (q.apply operation).waiting = q.waiting)
  /-- One more item waits. -/
  | one (delayed : Delayed ι α) (accepting : q.closed = false) (put_off : q.putOff operation = [delayed])
      (delivers : q.delivered operation = [])
      (waiting_eq : (q.apply operation).waiting = schedule delayed q.waiting)
  /-- The items that are due do not wait any more. -/
  | due (now : α) (moved : operation = .advance now) (accepting : q.closed = false)
      (put_off : q.putOff operation = [])
      (delivers : q.delivered operation =
        q.waiting.takeWhile fun delayed => Quantity.atMost delayed.due now)
      (waiting_eq : (q.apply operation).waiting =
        q.waiting.dropWhile fun delayed => Quantity.atMost delayed.due now)

theorem delays (q : WorkQueue ι κ α) {operation : Operation ι α} (not_close : operation ≠ .close)
    (not_drain : operation ≠ .drain) :
    q.Delays operation ∧ (q.apply operation).closed = q.closed := by
  cases operation with
  | add item => exact ⟨.none rfl rfl (q.add_frame item).1, (q.add_frame item).2⟩
  | addAfter now item delay =>
      obtain ⟨⟨put_off, waiting_eq⟩ | ⟨accepting, put_off, waiting_eq⟩, closed_eq⟩ :=
        q.addAfter_cases now item delay
      · exact ⟨.none put_off rfl waiting_eq, closed_eq⟩
      · exact ⟨.one _ accepting put_off rfl waiting_eq, closed_eq⟩
  | addRateLimited now item =>
      rcases answer : q.limiter.wait now item with ⟨asked, limiter⟩
      cases asked with
      | error failure =>
          have put_off : q.putOff (.addRateLimited now item) = [] := by rw [putOff, answer]
          have result : q.apply (.addRateLimited now item) = { q with limiter } := by
            rw [apply, addRateLimited, answer]
          exact ⟨.none put_off rfl (by rw [result]), by rw [result]⟩
      | ok delay =>
          have limited : q.putOff (.addRateLimited now item) =
              putOffAfter { q with limiter } now item delay := by rw [putOff, answer]; rfl
          have result : q.apply (.addRateLimited now item) =
              addAfter { q with limiter } now item delay := by rw [apply, addRateLimited, answer]
          obtain ⟨⟨put_off, waiting_eq⟩ | ⟨accepting, put_off, waiting_eq⟩, closed_eq⟩ :=
            addAfter_cases { q with limiter } now item delay
          · exact ⟨.none (limited.trans put_off) rfl (result ▸ waiting_eq), result ▸ closed_eq⟩
          · exact ⟨.one _ accepting (limited.trans put_off) rfl (result ▸ waiting_eq),
              result ▸ closed_eq⟩
  | forget item => exact ⟨.none rfl rfl rfl, rfl⟩
  | advance now =>
      cases closed : q.closed with
      | true =>
          have result : q.apply (.advance now) = q := if_pos closed
          exact ⟨.none rfl (if_pos closed) (congrArg _ result), (congrArg _ result).trans closed⟩
      | false =>
          obtain ⟨waiting_eq, closed_eq⟩ := advance_frame closed now
          exact ⟨.due now rfl closed rfl (if_neg (Bool.eq_false_iff.mp closed)) waiting_eq,
            closed_eq.trans closed⟩
  | get =>
      have frame : q.get.2.waiting = q.waiting ∧ q.get.2.closed = q.closed := by
        unfold get
        split <;> exact ⟨rfl, rfl⟩
      exact ⟨.none rfl rfl frame.1, frame.2⟩
  | done item => exact ⟨.none rfl rfl (q.done_frame item).2.1, (q.done_frame item).2.2⟩
  | close => contradiction
  | drain => contradiction

/-! ## Runs -/

/-- The delayed items that a run puts off, in order. -/
def putOffs (q : WorkQueue ι κ α) : List (Operation ι α) → List (Delayed ι α)
  | [] => []
  | operation :: operations => q.putOff operation ++ putOffs (q.apply operation) operations

/-- The delayed items that each operation of a run delivers. -/
def deliveries (q : WorkQueue ι κ α) : List (Operation ι α) → List (List (Delayed ι α))
  | [] => []
  | operation :: operations => q.delivered operation :: deliveries (q.apply operation) operations

/-- The readings of the clock at which delayed items are delivered. -/
def readings : List (Operation ι α) → List α :=
  List.filterMap fun
    | .advance now => some now
    | _ => none

/-- The times that a run compares: those at which delayed items are due, and the readings of the clock. -/
def times (q : WorkQueue ι κ α) (operations : List (Operation ι α)) : List α :=
  (q.putOffs operations).map Delayed.due ++ readings operations

theorem putOffs_concat (q : WorkQueue ι κ α) (operations : List (Operation ι α))
    (operation : Operation ι α) :
    q.putOffs (operations ++ [operation]) =
      q.putOffs operations ++ (q.run operations).putOff operation := by
  induction operations generalizing q with
  | nil => simp [putOffs, run]
  | cons first operations ih =>
      simp only [List.cons_append, putOffs, ih, List.append_assoc]
      rfl

theorem deliveries_concat (q : WorkQueue ι κ α) (operations : List (Operation ι α))
    (operation : Operation ι α) :
    q.deliveries (operations ++ [operation]) =
      q.deliveries operations ++ [(q.run operations).delivered operation] := by
  induction operations generalizing q with
  | nil => simp [deliveries, run]
  | cons first operations ih =>
      simp only [List.cons_append, deliveries, ih]
      rfl

theorem times_subset_concat (q : WorkQueue ι κ α) (operations : List (Operation ι α))
    (operation : Operation ι α) : q.times operations ⊆ q.times (operations ++ [operation]) := by
  intro time member
  rw [times, List.mem_append] at member ⊢
  refine member.imp (fun due => ?_) fun reading => ?_
  · rw [putOffs_concat, List.map_append]
    exact List.mem_append_left _ due
  · rw [readings, List.filterMap_append]
    exact List.mem_append_left _ reading

theorem times_subset_append (q : WorkQueue ι κ α) (first second : List (Operation ι α)) :
    q.times first ⊆ q.times (first ++ second) := by
  induction second using List.reverseRecOn with
  | nil =>
      rw [List.append_nil]
      exact List.Subset.refl _
  | append_singleton second operation ih =>
      rw [← List.append_assoc]
      exact List.Subset.trans ih (q.times_subset_concat ..)

/-- The queue is not closed in the run. -/
def StaysOpen (operations : List (Operation ι α)) : Prop :=
  ∀ operation ∈ operations, operation ≠ .close ∧ operation ≠ .drain

/-- The delayed items of a run are those that were delivered and those that wait, each once, and both in
the order of their times and numbers. -/
structure Accounted (q : WorkQueue ι κ α) (operations : List (Operation ι α))
    (delivered : List (List (Delayed (ι × Nat) α))) (waiting : List (Delayed (ι × Nat) α)) : Prop where
  /-- These items were delivered. -/
  delivered_eq : delivered.map (·.map .plain) = q.deliveries operations
  /-- These items wait. -/
  waiting_eq : waiting.map .plain = (q.run operations).waiting
  /-- Together they are the items that were put off. -/
  all : (delivered.flatten ++ waiting).Perm ((q.putOffs operations).mapIdx Delayed.numbered)
  /-- What is delivered at once is in order. -/
  delivered_inOrder : ∀ batch ∈ delivered, batch.Pairwise Delayed.Before
  /-- The items that wait are in order. -/
  waiting_inOrder : waiting.Pairwise Delayed.Before

namespace Accounted

variable {q : WorkQueue ι κ α} {operations : List (Operation ι α)} {operation : Operation ι α}
  {delivered : List (List (Delayed (ι × Nat) α))} {waiting : List (Delayed (ι × Nat) α)}

theorem exists_number (accounted : q.Accounted operations delivered waiting)
    {delayed : Delayed (ι × Nat) α} (member : delayed ∈ waiting) :
    ∃ (number : Nat) (listed : number < (q.putOffs operations).length),
      (q.putOffs operations)[number].numbered number = delayed :=
  List.mem_mapIdx.mp (accounted.all.mem_iff.mp (List.mem_append_right _ member))

theorem number_lt (accounted : q.Accounted operations delivered waiting) {delayed : Delayed (ι × Nat) α}
    (member : delayed ∈ waiting) : delayed.item.2 < (q.putOffs operations).length := by
  obtain ⟨number, listed, rfl⟩ := accounted.exists_number member
  exact listed

theorem due_mem_times (accounted : q.Accounted operations delivered waiting)
    {delayed : Delayed (ι × Nat) α} (member : delayed ∈ waiting) :
    delayed.due ∈ q.times operations := by
  obtain ⟨number, listed, rfl⟩ := accounted.exists_number member
  exact List.mem_append_left _ (List.mem_map_of_mem (List.getElem_mem listed))

/-- The account after one more operation, which delivers a batch and leaves other items waiting. -/
theorem next (accounted : q.Accounted operations delivered waiting)
    (batch left : List (Delayed (ι × Nat) α))
    (delivers : batch.map .plain = (q.run operations).delivered operation)
    (waiting_eq : left.map .plain = ((q.run operations).apply operation).waiting)
    (all : (batch ++ left).Perm (waiting ++ ((q.run operations).putOff operation).mapIdx fun number =>
      Delayed.numbered (number + (q.putOffs operations).length)))
    (batch_inOrder : batch.Pairwise Delayed.Before) (left_inOrder : left.Pairwise Delayed.Before) :
    q.Accounted (operations ++ [operation]) (delivered ++ [batch]) left where
  delivered_eq := by
    rw [deliveries_concat, List.map_append, accounted.delivered_eq, List.map_singleton, delivers]
  waiting_eq := by rw [run_concat, waiting_eq]
  all := by
    rw [putOffs_concat, List.mapIdx_append, List.flatten_concat, List.append_assoc]
    refine (all.append_left _).trans ?_
    rw [← List.append_assoc]
    exact accounted.all.append_right _
  delivered_inOrder other member := by
    rcases List.mem_append.mp member with earlier | last
    · exact accounted.delivered_inOrder other earlier
    · rw [List.mem_singleton.mp last]
      exact batch_inOrder
  waiting_inOrder := left_inOrder

/-- One more operation that does not close the queue keeps the account. -/
theorem concat (accounted : q.Accounted operations delivered waiting)
    (ordered : Ordered (q.times (operations ++ [operation])))
    (not_close : operation ≠ .close) (not_drain : operation ≠ .drain) :
    ∃ delivered waiting, q.Accounted (operations ++ [operation]) delivered waiting := by
  have waiting_now := accounted.waiting_eq
  obtain ⟨step, -⟩ := (q.run operations).delays not_close not_drain
  cases step with
  | none put_off delivers waiting_eq =>
      refine ⟨_, _, accounted.next [] waiting (delivers ▸ rfl) (waiting_now.trans waiting_eq.symm) ?_
        .nil accounted.waiting_inOrder⟩
      rw [put_off]
      exact .of_eq (List.append_nil _).symm
  | one delayed _ put_off delivers waiting_eq =>
      let last := delayed.numbered (q.putOffs operations).length
      refine ⟨_, _, accounted.next [] (schedule last waiting) (delivers ▸ rfl) ?_ ?_ .nil ?_⟩
      · rw [map_plain_schedule, waiting_now, waiting_eq]
        rfl
      · rw [put_off, List.mapIdx_singleton, Nat.zero_add]
        exact (schedule_perm last waiting).trans (List.perm_append_singleton last waiting).symm
      · refine pairwise_schedule (ordered.mono fun time member => ?_) accounted.waiting_inOrder
          fun other => accounted.number_lt
        obtain ⟨other, other_mem, rfl⟩ := List.mem_map.mp member
        rcases List.mem_cons.mp other_mem with rfl | earlier
        · refine List.mem_append_left _ (List.mem_map.mpr ⟨delayed, ?_, rfl⟩)
          rw [putOffs_concat, put_off]
          exact List.mem_concat_self
        · exact q.times_subset_concat operations operation (accounted.due_mem_times earlier)
  | due now _ _ put_off delivers waiting_eq =>
      let isDue (delayed : Delayed (ι × Nat) α) : Bool := Quantity.atMost delayed.due now
      refine ⟨_, _, accounted.next (waiting.takeWhile isDue) (waiting.dropWhile isDue) ?_ ?_ ?_ ?_ ?_⟩
      · rw [delivers, ← waiting_now, List.takeWhile_map]
        rfl
      · rw [waiting_eq, ← waiting_now, List.dropWhile_map]
        rfl
      · rw [put_off, List.takeWhile_append_dropWhile]
        exact .of_eq (List.append_nil _).symm
      · exact accounted.waiting_inOrder.sublist (List.takeWhile_sublist _)
      · exact accounted.waiting_inOrder.sublist (List.dropWhile_sublist _)

end Accounted

omit [BEq ι] [Quantity α] in
theorem staysOpen_concat {operations : List (Operation ι α)} {operation : Operation ι α} :
    StaysOpen (operations ++ [operation]) ↔
      StaysOpen operations ∧ operation ≠ .close ∧ operation ≠ .drain := by
  unfold StaysOpen
  rw [List.forall_mem_append, List.forall_mem_singleton]

theorem closed_run_of_staysOpen (q : WorkQueue ι κ α) {operations : List (Operation ι α)}
    (stays_open : StaysOpen operations) : (q.run operations).closed = q.closed := by
  induction operations using List.reverseRecOn with
  | nil => rfl
  | append_singleton operations operation ih =>
      obtain ⟨before, not_close, not_drain⟩ := staysOpen_concat.mp stays_open
      rw [run_concat, ((q.run operations).delays not_close not_drain).2, ih before]

/-- Along a run in which the queue is not closed there is an account of the delayed items. -/
theorem exists_accounted (limiter : RateLimiter ι α) {operations : List (Operation ι α)}
    (stays_open : StaysOpen operations)
    (ordered : Ordered ((empty limiter : WorkQueue ι κ α).times operations)) :
    ∃ delivered waiting, (empty limiter : WorkQueue ι κ α).Accounted operations delivered waiting := by
  induction operations using List.reverseRecOn with
  | nil => exact ⟨[], [], rfl, rfl, .refl _, by simp, .nil⟩
  | append_singleton operations operation ih =>
      obtain ⟨before, not_close, not_drain⟩ := staysOpen_concat.mp stays_open
      obtain ⟨delivered, waiting, accounted⟩ :=
        ih before (ordered.mono (times_subset_concat _ operations operation))
      exact accounted.concat ordered not_close not_drain

/-! ## Closed queues -/

/-- The queue is closed, and no delayed items wait. -/
structure Shut (q : WorkQueue ι κ α) : Prop where
  /-- No items are accepted. -/
  closed : q.closed = true
  /-- No delayed items wait. -/
  waiting_eq : q.waiting = []

namespace Shut

variable {q : WorkQueue ι κ α}

omit [BEq ι] [BEq κ] [Keyed ι κ] [Quantity α] in
theorem close (q : WorkQueue ι κ α) : q.close.Shut :=
  ⟨rfl, rfl⟩

/-- A closed queue puts nothing off and delivers nothing, and stays closed. -/
theorem step (shut : q.Shut) (operation : Operation ι α) :
    (q.apply operation).Shut ∧ q.putOff operation = [] ∧ q.delivered operation = [] := by
  by_cases not_close : operation = .close
  · subst not_close
    exact ⟨.close q, rfl, rfl⟩
  by_cases not_drain : operation = .drain
  · subst not_drain
    exact ⟨.close q, rfl, rfl⟩
  obtain ⟨step, closed_eq⟩ := q.delays not_close not_drain
  cases step with
  | none put_off delivers waiting_eq =>
      exact ⟨⟨closed_eq.trans shut.closed, waiting_eq.trans shut.waiting_eq⟩, put_off, delivers⟩
  | one _ accepting _ _ _ | due _ _ accepting _ _ _ =>
      rw [shut.closed] at accepting
      contradiction

theorem run (shut : q.Shut) (operations : List (Operation ι α)) :
    (q.run operations).Shut ∧ q.putOffs operations = [] ∧
      ∀ batch ∈ q.deliveries operations, batch = [] := by
  induction operations generalizing q with
  | nil => exact ⟨shut, rfl, by simp [deliveries]⟩
  | cons operation operations ih =>
      obtain ⟨next_shut, put_off, delivers⟩ := shut.step operation
      obtain ⟨run_shut, put_offs, deliver⟩ := ih next_shut
      refine ⟨run_shut, ?_, List.forall_mem_cons.mpr ⟨delivers, deliver⟩⟩
      rw [putOffs, put_off, put_offs]
      rfl

end Shut

theorem run_split (q : WorkQueue ι κ α) (earlier later : List (Operation ι α))
    (operation : Operation ι α) :
    q.run (earlier ++ operation :: later) = (q.run (earlier ++ [operation])).run later := by
  simp [run]

theorem shut_run_concat (q : WorkQueue ι κ α) (operations : List (Operation ι α))
    {closing : Operation ι α} (closes : closing = .close ∨ closing = .drain) :
    (q.run (operations ++ [closing])).Shut := by
  rw [run_concat]
  rcases closes with rfl | rfl <;> exact .close _

/-- A queue that does not stay open is closed in the end. -/
theorem shut_run_of_not_staysOpen (q : WorkQueue ι κ α) {operations : List (Operation ι α)}
    (closes : ¬StaysOpen operations) : (q.run operations).Shut := by
  unfold StaysOpen at closes
  push Not at closes
  obtain ⟨closing, member, closes⟩ := closes
  obtain ⟨earlier, later, rfl⟩ := List.append_of_mem member
  rw [run_split]
  exact ((q.shut_run_concat earlier (or_iff_not_imp_left.mpr closes)).run later).1

/-! ## Whole runs -/

/-- An advance of the clock lets the delivered items arrive, in their order, and changes nothing else but the
items that wait.  What it delivers is due. -/
theorem apply_advance (q : WorkQueue ι κ α) (now : α) :
    q.apply (.advance now) =
        ((q.delivered (.advance now)).map Delayed.item).foldl arrive
          { q with waiting := (q.apply (.advance now)).waiting } ∧
      ∀ delayed ∈ q.delivered (.advance now), Quantity.atMost delayed.due now = true := by
  by_cases closed : q.closed = true
  · have result : q.apply (.advance now) = q := if_pos closed
    rw [delivered, if_pos closed, result]
    exact ⟨rfl, by simp⟩
  · rw [(advance_frame (Bool.eq_false_iff.mpr closed) now).1, delivered, if_neg closed, List.foldl_map]
    exact ⟨if_neg closed, fun delayed => List.mem_takeWhile_imp⟩

/-- After an advance of the clock no item that waits is due. -/
theorem not_due_after_advance (limiter : RateLimiter ι α) {operations : List (Operation ι α)} {now : α}
    (ordered : Ordered ((empty limiter : WorkQueue ι κ α).times (operations ++ [.advance now]))) :
    ∀ delayed ∈ ((empty limiter : WorkQueue ι κ α).run (operations ++ [.advance now])).waiting,
      Quantity.atMost delayed.due now = false := by
  rw [run_concat]
  by_cases stays_open : StaysOpen operations
  · have before : Ordered ((empty limiter : WorkQueue ι κ α).times operations) :=
      ordered.mono (times_subset_concat _ operations (.advance now))
    obtain ⟨delivered, waiting, accounted⟩ := exists_accounted limiter stays_open before
    rw [(advance_frame (closed_run_of_staysOpen _ stays_open) now).1, ← accounted.waiting_eq]
    refine not_due_of_mem_dropWhile (ordered.mono fun time member => ?_) ?_
    · rcases List.mem_cons.mp member with rfl | waits
      · refine List.mem_append_right _ ?_
        rw [readings, List.filterMap_append]
        exact List.mem_concat_self
      · rw [List.map_map] at waits
        obtain ⟨delayed, kept, rfl⟩ := List.mem_map.mp waits
        exact times_subset_concat _ operations (.advance now) (accounted.due_mem_times kept)
    · exact List.pairwise_map.mpr (accounted.waiting_inOrder.imp And.left)
  · obtain ⟨shut, -⟩ :=
      (shut_run_of_not_staysOpen (empty limiter : WorkQueue ι κ α) stays_open).step (.advance now)
    rw [shut.waiting_eq]
    simp

/-- In a run whose times are in order, as long as the queue is not closed, each item that is added with a
delay above zero is put off, and each item that was put off was delivered once or waits; what is delivered at
once is in the order of its times, and at one time in the order in which it was put off.  An advance of the
clock lets the items arrive that it delivers, which are due, and leaves none that is.  After the queue was
closed nothing waits, nothing is put off and nothing is delivered. -/
theorem delayed_delivered_once (limiter : RateLimiter ι α) (operations : List (Operation ι α))
    (ordered : Ordered ((empty limiter : WorkQueue ι κ α).times operations)) :
    let start : WorkQueue ι κ α := empty limiter
    (StaysOpen operations →
      (∀ earlier now item delay later, operations = earlier ++ .addAfter now item delay :: later →
        Quantity.atMost delay Quantity.zero = false →
        (start.run earlier).putOff (.addAfter now item delay) = [⟨now + delay, item⟩]) ∧
        ∃ delivered waiting, start.Accounted operations delivered waiting) ∧
      (∀ earlier now later, operations = earlier ++ .advance now :: later →
        (start.run (earlier ++ [.advance now]) =
            (((start.run earlier).delivered (.advance now)).map Delayed.item).foldl arrive
              { start.run earlier with waiting := (start.run (earlier ++ [.advance now])).waiting }) ∧
          (∀ delayed ∈ (start.run earlier).delivered (.advance now),
            Quantity.atMost delayed.due now = true) ∧
          ∀ delayed ∈ (start.run (earlier ++ [.advance now])).waiting,
            Quantity.atMost delayed.due now = false) ∧
      ∀ earlier closing later, operations = earlier ++ closing :: later →
        closing = .close ∨ closing = .drain →
        (start.run operations).waiting = [] ∧ (start.run (earlier ++ [closing])).putOffs later = [] ∧
          ∀ batch ∈ (start.run (earlier ++ [closing])).deliveries later, batch = [] := by
  intro start
  refine ⟨fun stays_open => ⟨?_, exists_accounted limiter stays_open ordered⟩, ?_, ?_⟩
  · rintro earlier now item delay later rfl positive
    have accepting : (start.run earlier).closed = false :=
      start.closed_run_of_staysOpen fun operation member => stays_open operation (by simp [member])
    rw [putOff, putOffAfter, positive, accepting]
    rfl
  · rintro earlier now later rfl
    obtain ⟨result, are_due⟩ := (start.run earlier).apply_advance now
    rw [List.append_cons] at ordered
    refine ⟨?_, are_due, not_due_after_advance limiter (ordered.mono (times_subset_append _ _ later))⟩
    rw [run_concat]
    exact result
  · rintro earlier closing later rfl closes
    rw [run_split]
    obtain ⟨shut, put_offs, deliver⟩ := (start.shut_run_concat earlier closes).run later
    exact ⟨shut.waiting_eq, put_offs, deliver⟩

/-- A run in which two events are due at one time, and a third one that was put off later is due before. -/
def putOffThrice : List (Operation Event Number) :=
  [.addAfter (.whole 0) (eventAbout .observe "demo") (.whole 5),
    .addAfter (.whole 2) (eventAbout .observe "other") (.whole 3),
    .addAfter (.whole 2) (eventAbout .update "demo") (.whole 1), .advance (.whole 3), .advance (.whole 5)]

theorem delayed_delivered_once_thrice :
    Ordered (unused.times putOffThrice) ∧ StaysOpen putOffThrice ∧
      (∃ delivered waiting, unused.Accounted putOffThrice delivered waiting) ∧
      (∀ delayed ∈ (unused.run (putOffThrice.take 4)).waiting,
        Quantity.atMost delayed.due (.whole 3) = false) ∧
      (unused.deliveries putOffThrice).map (·.map Delayed.item) =
        [[], [], [], [eventAbout .update "demo"],
          [eventAbout .observe "demo", eventAbout .observe "other"]] := by
  have ordered : Ordered (unused.times putOffThrice) := ⟨by decide, by decide⟩
  have stays_open : StaysOpen putOffThrice := by
    simp [StaysOpen, putOffThrice]
  obtain ⟨account, advances, -⟩ :=
    delayed_delivered_once (κ := ObjectRef) (.longest []) putOffThrice ordered
  obtain ⟨-, -, none_due⟩ := advances (putOffThrice.take 3) (.whole 3) [.advance (.whole 5)] rfl
  exact ⟨ordered, stays_open, (account stays_open).2, none_due, rfl⟩

end WorkQueue

end Reconciler
