import Reconciler.Proofs.Positive
import Reconciler.WorkQueue

/-!
# Failures under the usual rate limiter

Of the two limiters that the usual one combines, only the backoff counts failures.  The count of an
item goes up by one with each wait for it and drops to zero when the item is forgotten; other items
keep theirs.  A wait is always granted, and it is longer than nothing, so that an item which is added
again after a failure never enters the queue at once.
-/

namespace Reconciler

namespace FailureCounts

variable {ι : Type} [BEq ι]

@[simp]
theorem count_nil (x : ι) : count [] x = 0 := rfl

theorem count_cons (entry : ι × Nat) (counts : FailureCounts ι) (x : ι) :
    count (entry :: counts) x = if entry.1 == x then entry.2 else counts.count x := by
  unfold count
  cases same : entry.1 == x <;> simp [same]

variable [EquivBEq ι]

theorem count_forget (counts : FailureCounts ι) (item x : ι) :
    (counts.forget item).count x = if item == x then 0 else counts.count x := by
  induction counts with
  | nil => simp [forget]
  | cons entry rest ih =>
      cases dropped : entry.1 == item with
      | true =>
          have key_eq : (entry.1 == x) = (item == x) := BEq.congr_left dropped
          have rest_eq : forget (entry :: rest) item = forget rest item := by
            simp [forget, dropped]
          rw [rest_eq, ih, count_cons, key_eq]
          split <;> rfl
      | false =>
          have kept_eq : forget (entry :: rest) item = entry :: forget rest item := by
            simp [forget, dropped]
          rw [kept_eq, count_cons, count_cons, ih]
          cases here : entry.1 == x with
          | false => simp
          | true =>
              have other : (item == x) = false := by
                rw [← BEq.congr_right here, BEq.comm, dropped]
              simp [other]

theorem count_congr (counts : FailureCounts ι) {item x : ι} (same : (item == x) = true) :
    counts.count item = counts.count x := by
  unfold count
  simp only [BEq.congr_right same]

theorem count_record (counts : FailureCounts ι) (item x : ι) :
    (counts.record item).count x = counts.count x + if item == x then 1 else 0 := by
  rw [record, count_cons, count_forget]
  cases same : item == x with
  | false => simp
  | true => simp [counts.count_congr same]

end FailureCounts

/-- A backoff from 3 to 180 seconds never lets an item come again at once. -/
theorem Backoff.delay_positive (failures : Nat) :
    Quantity.below Quantity.zero
      (delay (Number.float 3.0) (Number.float 180.0) failures) = true := by
  by_cases many : 62 < failures
  · rw [delay, if_pos many]
    decide +kernel
  · have few : failures < 63 := by omega
    have positive_below : ∀ n < 63,
        Quantity.below Quantity.zero (delay (Number.float 3.0) (Number.float 180.0) n) = true := by
      decide +kernel
    exact positive_below failures few

/-- A bucket with a rate that is not zero always grants the wait for a token. -/
theorem Bucket.shortfall_granted {b : Bucket Number} (flows : Quantity.isZero b.rate = false) :
    ∃ wait, b.shortfall = .ok wait := by
  unfold shortfall
  rw [flows]
  split <;> exact ⟨_, rfl⟩

namespace RateLimiter

variable {ι : Type}

/-- The usual limiter after some failures and waits. -/
def usual (failures : FailureCounts ι) (tokens last : Number) : RateLimiter ι Number :=
  .longest
    [.backoff ⟨.float 3.0, .float 180.0, failures⟩,
      .bucket ⟨.float 10.0, .whole 100, tokens, last⟩]

theorem standard_eq_usual (now : Number) :
    standard (ι := ι) now = usual [] (Quantity.measured (.whole 100)) now := rfl

variable [BEq ι] (failures : FailureCounts ι) (tokens last now : Number) (item : ι)

theorem requeues_usual :
    (usual failures tokens last).requeues item = .ok (failures.count item) := by
  simp [usual, requeues, greatestRequeues]

theorem forget_usual :
    (usual failures tokens last).forget item = usual (failures.forget item) tokens last := by
  simp [usual, forget, forgetAll]

/-- The usual limiter grants a wait, which is longer than nothing, and counts a failure. -/
theorem wait_usual :
    ∃ delay tokens',
      (usual failures tokens last).wait now item =
        (.ok delay, usual (failures.record item) tokens' now) ∧
      Quantity.below Quantity.zero delay = true := by
  let reserved := (⟨.float 10.0, .whole 100, tokens, last⟩ : Bucket Number).reserve now
  have flows : Quantity.isZero (Number.float 10.0) = false := by decide
  obtain ⟨shortfall, granted⟩ := Bucket.shortfall_granted (b := reserved) flows
  let backoff := Backoff.delay (Number.float 3.0) (Number.float 180.0) (failures.count item)
  refine ⟨Quantity.greatest backoff shortfall, reserved.tokens, ?_,
    Number.greatest_positive shortfall (Backoff.delay_positive _)⟩
  have bucket_wait :
      (⟨.float 10.0, .whole 100, tokens, last⟩ : Bucket Number).wait now =
        (.ok shortfall, reserved) :=
    congrArg (·, reserved) granted
  simp only [usual, wait, waits, bucket_wait]
  rfl

end RateLimiter

namespace WorkQueue

section Frame

variable {ι κ α : Type} [BEq ι] (q : WorkQueue ι κ α) (item : ι)

@[simp]
theorem arrive_limiter : (q.arrive item).limiter = q.limiter := by
  unfold arrive
  split
  · rfl
  · dsimp only
    split <;> rfl

@[simp]
theorem add_limiter : (q.add item).limiter = q.limiter := by
  unfold add
  split <;> simp

@[simp]
theorem addAfter_limiter [Quantity α] (now delay : α) :
    (q.addAfter now item delay).limiter = q.limiter := by
  unfold addAfter
  split
  · exact q.add_limiter item
  · split <;> rfl

end Frame

section Usual

variable {ι κ : Type} [BEq ι] {q : WorkQueue ι κ Number} {failures : FailureCounts ι}
  {tokens last : Number}

/-- The queue after an item was delayed for longer than nothing: it waits, unless the queue is
closed. -/
theorem addAfter_of_positive (q : WorkQueue ι κ Number) (now : Number) (item : ι) {delay : Number}
    (positive : Quantity.below Quantity.zero delay = true) :
    q.addAfter now item delay =
      { q with
        waiting := if q.closed then q.waiting else schedule ⟨now + delay, item⟩ q.waiting } := by
  unfold addAfter
  rw [if_neg (by simp [Number.not_atMost_zero positive])]
  split <;> rfl

/-- A failed item is added again exactly once, after a wait that is longer than nothing. -/
theorem addRateLimited_usual (limited : q.limiter = .usual failures tokens last) (now : Number)
    (item : ι) :
    ∃ delay tokens',
      q.limiter.wait now item = (.ok delay, .usual (failures.record item) tokens' now) ∧
      Quantity.below Quantity.zero delay = true ∧
      q.addRateLimited now item =
        (.ok (),
          { q with
            limiter := .usual (failures.record item) tokens' now
            waiting :=
              if q.closed then q.waiting else schedule ⟨now + delay, item⟩ q.waiting }) := by
  obtain ⟨delay, tokens', waited, positive⟩ :=
    RateLimiter.wait_usual failures tokens last now item
  rw [← limited] at waited
  refine ⟨delay, tokens', waited, positive, ?_⟩
  simp only [addRateLimited, waited]
  rw [addAfter_of_positive _ now item positive]

end Usual

end WorkQueue

end Reconciler
