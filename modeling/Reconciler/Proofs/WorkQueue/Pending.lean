import Reconciler.Proofs.WorkQueue.Consistency

/-!
# Items on their way

An item is on its way while it is delayed, and while it has come and was not handed out.  Each way of
adding an item puts at most one more on its way, each handout takes one off, and the other operations
put none on.
-/

namespace Reconciler.WorkQueue

variable {ι κ α : Type} (picked : ι → Bool)

/-- The number of items of some sort that are on their way. -/
def pending (q : WorkQueue ι κ α) : Nat :=
  q.waiting.countP (fun delayed => picked delayed.item) + q.dirty.countP picked

theorem countP_cons_eq {β : Type} (picked : β → Bool) (item : β) (items : List β) :
    (item :: items).countP picked = items.countP picked + (picked item).toNat := by
  cases isPicked : picked item <;> simp [isPicked]

theorem countP_concat_eq {β : Type} (picked : β → Bool) (items : List β) (item : β) :
    (items ++ [item]).countP picked = items.countP picked + (picked item).toNat := by
  cases isPicked : picked item <;> simp [isPicked]

variable [BEq ι] (q : WorkQueue ι κ α) (item : ι)

theorem pending_arrive_le :
    (q.arrive item).pending picked ≤ q.pending picked + (picked item).toNat := by
  have added : q.waiting.countP (fun delayed => picked delayed.item) +
      (q.dirty ++ [item]).countP picked ≤ q.pending picked + (picked item).toNat := by
    rw [countP_concat_eq, pending]
    omega
  rcases q.arrive_cases item with ⟨-, result⟩ | ⟨-, -, result⟩ | ⟨-, -, result⟩
  · rw [result]
    exact Nat.le_add_right ..
  · rw [result]
    exact added
  · rw [result]
    exact added

theorem pending_add_le : (q.add item).pending picked ≤ q.pending picked + (picked item).toNat := by
  unfold add
  split
  · exact Nat.le_add_right ..
  · exact q.pending_arrive_le picked item

theorem pending_foldl_arrive_le (items : List (Delayed ι α)) :
    (items.foldl (fun q delayed => q.arrive delayed.item) q).pending picked ≤
      q.pending picked + items.countP (fun delayed => picked delayed.item) := by
  induction items generalizing q with
  | nil => exact Nat.le_add_right ..
  | cons first rest ih =>
      have arrived := q.pending_arrive_le picked first.item
      have following := ih (q.arrive first.item)
      rw [countP_cons_eq]
      exact Nat.le_trans following (by omega)

section Clocked

variable [Quantity α]

omit [BEq ι] in
theorem countP_schedule (delayed : Delayed ι α) (waiting : List (Delayed ι α)) :
    (schedule delayed waiting).countP (fun delayed => picked delayed.item) =
      waiting.countP (fun delayed => picked delayed.item) + (picked delayed.item).toNat := by
  induction waiting with
  | nil => exact countP_cons_eq _ delayed []
  | cons first rest ih =>
      unfold schedule
      split
      · rw [countP_cons_eq, countP_cons_eq, ih]
        omega
      · exact countP_cons_eq _ delayed (first :: rest)

theorem pending_addAfter_le (now delay : α) :
    (q.addAfter now item delay).pending picked ≤ q.pending picked + (picked item).toNat := by
  unfold addAfter
  split
  · exact q.pending_add_le picked item
  · split
    · exact Nat.le_add_right ..
    · simp only [pending, countP_schedule]
      omega

theorem pending_addRateLimited_le (now : α) :
    (q.addRateLimited now item).2.pending picked ≤ q.pending picked + (picked item).toNat := by
  unfold addRateLimited
  split
  · exact Nat.le_add_right ..
  · exact pending_addAfter_le picked _ item now _

theorem pending_deliver_le (now : α) : (q.deliver now).pending picked ≤ q.pending picked := by
  unfold deliver
  split
  · exact Nat.le_refl _
  · refine Nat.le_trans (pending_foldl_arrive_le picked _ _) ?_
    have parted := congrArg (List.countP fun delayed => picked delayed.item)
      (List.takeWhile_append_dropWhile (p := fun delayed => Quantity.atMost delayed.due now)
        (l := q.waiting))
    rw [List.countP_append] at parted
    simp only [pending]
    omega

end Clocked

omit [BEq ι] in
theorem pending_close_le : q.close.pending picked ≤ q.pending picked := by
  simp [pending, close]

theorem pending_done [BEq κ] [Keyed ι κ] : (q.done item).pending picked = q.pending picked := by
  obtain ⟨dirty_eq, waiting_eq, -⟩ := q.done_frame item
  rw [pending, pending, dirty_eq, waiting_eq]

/-! ## Handouts -/

section Handouts

variable {picked} [EquivBEq ι] (lawful : ∀ x y : ι, (x == y) = true → picked x = picked y)

include lawful

omit item in
theorem countP_erased {items : List ι} {item : ι} (member : items.contains item = true) :
    (items.filter fun x => !x == item).countP picked + (picked item).toNat ≤
      items.countP picked := by
  obtain ⟨x, x_member, same⟩ := List.contains_iff_exists_mem_beq.mp member
  have parted := List.countP_eq_countP_filter_add items picked fun x => !x == item
  cases isPicked : picked item with
  | false =>
      rw [Bool.toNat_false, Nat.add_zero]
      omega
  | true =>
      have erased : 0 < (items.filter fun x => !!x == item).countP picked := by
        refine List.countP_pos_iff.mpr ⟨x, List.mem_filter.mpr ⟨x_member, ?_⟩, ?_⟩
        · rw [BEq.symm same]
          rfl
        · rw [← lawful item x same, isPicked]
      rw [Bool.toNat_true]
      omega

theorem pending_get_le [BEq κ] [Keyed ι κ] {q : WorkQueue ι κ α} (consistent : q.Consistent)
    {item : ι} (handed : q.get.1.item = some item) :
    q.get.2.pending picked + (picked item).toNat ≤ q.pending picked := by
  rcases q.get_cases with ⟨front, x, rest, split, -, -, answer, -⟩ | ⟨-, answer⟩
  · rw [answer] at handed ⊢
    obtain rfl : x = item := Option.some.inj handed
    have come := consistent.queue_dirty x (by simp [split])
    have erased := countP_erased lawful come
    change q.waiting.countP _ + (q.dirty.filter fun y => !y == x).countP picked + _ ≤
      q.waiting.countP _ + q.dirty.countP picked
    omega
  · rw [answer] at handed
    contradiction

end Handouts

end Reconciler.WorkQueue
