import Mathlib.Data.List.Induction
import Mathlib.Tactic.Linarith
import Reconciler.Proofs.RateLimiter.Calls
import Reconciler.Proofs.WorkQueue.Failures

/-!
# What a backoff remembers of an item

Items share one table, but what is asked for one of them does not show in the answers for another.  The
table holds for each item the waits since it was last forgotten, and this number alone tells the next wait:
it doubles up to the limit, and the shortcut for great numbers agrees with the doubling when that has
reached the limit by then.
-/

namespace Reconciler

namespace Backoff

/-! ## Delays -/

section Delays

variable {base limit : ℚ}

theorem delay_rat (base limit : ℚ) (failures : ℕ) :
    delay base limit failures =
      if failures ≤ 62 then min (base * 2 ^ failures) limit else limit := by
  have doubled : (Quantity.ofInt (Nat.pow 2 failures) : ℚ) = 2 ^ failures := by
    simp [Quantity.ofInt]
  unfold delay
  rw [Quantity.least_rat, doubled]
  by_cases many : 62 < failures
  · rw [if_pos many, if_neg (not_le.mpr many)]
  · rw [if_neg many, if_pos (not_lt.mp many)]

theorem delay_le (failures : ℕ) : delay base limit failures ≤ limit := by
  rw [delay_rat]
  split
  · exact min_le_right _ _
  · exact le_rfl

variable (base_nonneg : 0 ≤ base)
include base_nonneg

theorem doubling_mono {m n : ℕ} (more : m ≤ n) : base * 2 ^ m ≤ base * 2 ^ n :=
  mul_le_mul_of_nonneg_left (pow_le_pow_right₀ one_le_two more) base_nonneg

theorem delay_mono {m n : ℕ} (more : m ≤ n) : delay base limit m ≤ delay base limit n := by
  by_cases many : 62 < n
  · rw [delay_rat base limit n, if_neg (not_le.mpr many)]
    exact delay_le m
  · have few : n ≤ 62 := not_lt.mp many
    rw [delay_rat, delay_rat, if_pos (more.trans few), if_pos few]
    exact min_le_min_right limit (doubling_mono base_nonneg more)

/-- Where the doubling has reached the limit by then, the shortcut for great numbers changes nothing. -/
theorem delay_eq_min (reached : limit ≤ base * 2 ^ 63) (failures : ℕ) :
    delay base limit failures = min (base * 2 ^ failures) limit := by
  rw [delay_rat]
  split
  · rfl
  next many =>
    have great : 63 ≤ failures := not_le.mp many
    exact (min_eq_right (reached.trans (doubling_mono base_nonneg great))).symm

end Delays

end Backoff

namespace RateLimiter

variable {ι : Type} [BEq ι]

/-! ## The waits since an item was forgotten -/

namespace Call

variable {α : Type}

/-- The call asks for a wait for an item. -/
def asksFor (item : ι) : Call ι α → Bool
  | .wait _ own => own == item
  | .forget _ => false

/-- The call forgets an item. -/
def forgets (item : ι) : Call ι α → Bool
  | .wait .. => false
  | .forget own => own == item

/-- A call about another item does neither. -/
theorem blind_of_other {call : Call ι α} {item : ι} (other : (call.item == item) = false) :
    call.asksFor item = false ∧ call.forgets item = false := by
  cases call with
  | wait now own => exact ⟨other, rfl⟩
  | forget own => exact ⟨rfl, other⟩

end Call

/-- The waits that were asked for an item since it was last forgotten. -/
def streak {α : Type} (item : ι) (past : List (Call ι α)) : ℕ :=
  (past.reverse.takeWhile fun call => !call.forgets item).countP (·.asksFor item)

section Streak

variable {α : Type} (item : ι) (past : List (Call ι α))

theorem streak_concat (call : Call ι α) :
    streak item (past ++ [call]) =
      if call.forgets item then 0 else streak item past + if call.asksFor item then 1 else 0 := by
  unfold streak
  rw [List.reverse_append, List.reverse_singleton, List.singleton_append, List.takeWhile_cons]
  cases call.forgets item <;> simp [List.countP_cons]

/-- Calls that are about other items do not count. -/
theorem streak_filter : streak item (past.filter (·.item == item)) = streak item past := by
  induction past using List.reverseRecOn with
  | nil => rfl
  | append_singleton past call ih =>
      rw [List.filter_append, List.filter_cons, List.filter_nil, streak_concat]
      cases own : call.item == item with
      | true => rw [if_pos rfl, streak_concat, ih]
      | false =>
          obtain ⟨not_asked, not_forgotten⟩ := Call.blind_of_other own
          simp [ih, not_asked, not_forgotten]

end Streak

/-! ## Answers -/

section Answers

variable {base limit : ℚ}

/-- A wait is told by the failures of the item, and counts one more. -/
theorem wait_backoff (failures : FailureCounts ι) (now : ℚ) (item : ι) :
    (backoff ⟨base, limit, failures⟩ : RateLimiter ι ℚ).wait now item =
      (.ok (Backoff.delay base limit (failures.count item)),
        .backoff ⟨base, limit, failures.record item⟩) := by
  rw [wait]
  rfl

variable [EquivBEq ι]

/-- The table holds for each item the waits since it was last forgotten. -/
theorem exists_run_ofBackoff (base limit : ℚ) (past : List (Call ι ℚ)) :
    ∃ failures : FailureCounts ι,
      (ofBackoff base limit : RateLimiter ι ℚ).run past = .backoff ⟨base, limit, failures⟩ ∧
        ∀ item, failures.count item = streak item past := by
  induction past using List.reverseRecOn with
  | nil => exact ⟨[], rfl, fun item => rfl⟩
  | append_singleton past call ih =>
      obtain ⟨failures, ran, counted⟩ := ih
      rw [run_concat, ran]
      cases call with
      | wait now own =>
          refine ⟨failures.record own, ?_, fun item => ?_⟩
          · rw [apply, wait_backoff]
          · rw [FailureCounts.count_record, counted, streak_concat]
            rfl
      | forget own =>
          refine ⟨failures.forget own, ?_, fun item => ?_⟩
          · rw [apply, forget]
          · rw [FailureCounts.count_forget, counted, streak_concat]
            rfl

/-- The waits for an item that is not forgotten go on from its failures, one by one. -/
theorem grants_backoff {calls : List (Call ι ℚ)} {item : ι}
    (lasting : ∀ call ∈ calls, call.forgets item = false) (failures : FailureCounts ι) :
    (((backoff ⟨base, limit, failures⟩ : RateLimiter ι ℚ).grants calls).filter
        (·.item == item)).map Grant.delay =
      (List.range' (failures.count item) (calls.countP (·.asksFor item))).map
        fun count => .ok (Backoff.delay base limit count) := by
  induction calls generalizing failures with
  | nil => rfl
  | cons call rest ih =>
      obtain ⟨kept, later⟩ := List.forall_mem_cons.mp lasting
      cases call with
      | wait now own =>
          rw [grants, apply, wait_backoff, List.countP_cons, Call.asksFor, List.filter_cons]
          cases same : own == item with
          | true =>
              rw [if_pos rfl, if_pos rfl, List.map_cons, ih later, FailureCounts.count_record, same,
                if_pos rfl, List.range'_succ, List.map_cons, failures.count_congr same]
          | false =>
              rw [if_neg Bool.false_ne_true, if_neg Bool.false_ne_true, ih later,
                FailureCounts.count_record, same]
              rfl
      | forget own =>
          have other : (own == item) = false := kept
          rw [grants, apply, forget, ih later, FailureCounts.count_forget, other]
          rfl

/-- The answers about an item are told by its streak alone: the waits since it was last forgotten.  The next
wait is the base, doubled for each of them, up to the limit; beyond 62 of them it is the limit, which is no
other answer where the doubling has reached the limit by then.  The streak is what is counted for the item.
Until the item is forgotten, its waits do not decrease and stay within the limit.  Without the calls about
other items the answers are the same. -/
theorem answers_of_streak (base_nonneg : 0 ≤ base) (limit : ℚ) (past : List (Call ι ℚ)) (item : ι) :
    let limiter : RateLimiter ι ℚ := (ofBackoff base limit).run past
    let n := streak item past
    (∀ now, (limiter.wait now item).1 = .ok (if n ≤ 62 then min (base * 2 ^ n) limit else limit)) ∧
      limiter.requeues item = .ok n ∧
      (limit ≤ base * 2 ^ 63 → ∀ now,
        (limiter.wait now item).1 = .ok (min (base * 2 ^ n) limit)) ∧
      (∀ later : List (Call ι ℚ), (∀ call ∈ later, call.forgets item = false) →
        ∃ delays : List ℚ,
          ((limiter.grants later).filter (·.item == item)).map Grant.delay = delays.map .ok ∧
            delays.Pairwise (· ≤ ·) ∧ ∀ delay ∈ delays, delay ≤ limit) ∧
      let alone : RateLimiter ι ℚ := (ofBackoff base limit).run (past.filter (·.item == item))
      (∀ now, (limiter.wait now item).1 = (alone.wait now item).1) ∧
        limiter.requeues item = alone.requeues item := by
  intro limiter n
  obtain ⟨failures, ran, counted⟩ := exists_run_ofBackoff base limit past
  obtain ⟨own_failures, own_ran, own_counted⟩ :=
    exists_run_ofBackoff base limit (past.filter (·.item == item))
  have waited (now : ℚ) : (limiter.wait now item).1 = .ok (Backoff.delay base limit n) := by
    rw [show limiter = _ from ran, wait_backoff, counted]
  have told : limiter.requeues item = .ok n := by
    rw [show limiter = _ from ran, requeues, counted]
  refine ⟨fun now => ?_, told, fun reached now => ?_, fun later lasting => ?_, fun now => ?_, ?_⟩
  · rw [waited, Backoff.delay_rat]
  · rw [waited, Backoff.delay_eq_min base_nonneg reached]
  · refine ⟨(List.range' n (later.countP (·.asksFor item))).map (Backoff.delay base limit), ?_, ?_, ?_⟩
    · rw [show limiter = _ from ran, grants_backoff lasting, counted, List.map_map]
      rfl
    · have counting : (List.range' n (later.countP (·.asksFor item))).Pairwise (· < ·) :=
        List.pairwise_lt_range'
      exact List.pairwise_map.mpr (counting.imp fun less => Backoff.delay_mono base_nonneg less.le)
    · exact List.forall_mem_map.mpr fun count _ => Backoff.delay_le count
  · rw [waited, own_ran, wait_backoff, own_counted, streak_filter]
  · rw [told, own_ran, requeues, own_counted, streak_filter]

/-- Calls of a backoff about two items, in which one of them is forgotten once. -/
def mixedCalls : List (Call String ℚ) :=
  [.wait 0 "a", .forget "a", .wait 1 "a", .wait 1 "b", .wait 2 "a"]

/-- After two waits since it was forgotten, the next one is four times the base, and the one after that is
cut to the limit. -/
theorem answers_of_streak_mixed :
    (((ofBackoff 3 20).run mixedCalls : RateLimiter String ℚ).wait 3 "a").1 = .ok 12 ∧
      ((ofBackoff 3 20).run mixedCalls : RateLimiter String ℚ).requeues "a" = .ok 2 := by
  obtain ⟨waited, counted, -, -, -⟩ := answers_of_streak (zero_le_three : (0 : ℚ) ≤ 3) 20 mixedCalls "a"
  have twice : streak "a" mixedCalls = 2 := by decide
  rw [twice] at waited counted
  exact ⟨(waited 3).trans (by norm_num), counted⟩

end Answers

end RateLimiter

end Reconciler
