import Mathlib.Algebra.Order.Group.MinMax
import Mathlib.Tactic.Linarith
import Mathlib.Tactic.Ring
import Reconciler.Proofs.RateLimiter.Calls

/-!
# What a bucket of tokens lets through

A bucket is told by what it has spent of its inflow: the tokens that it has given out or reserved, and the
inflow that a full bucket could not hold.  Each call spends one token more, and a call may spill what the
burst has no room for; a token is there as soon as the inflow has come up to what is spent.  So calls that
lie apart in their order lie apart in time, but for a burst.
-/

namespace Reconciler

namespace Bucket

/-! ## One call -/

/-- What a bucket has spent of its inflow since time zero.  It is ahead of the inflow when tokens are
reserved. -/
def spent (b : Bucket ℚ) : ℚ :=
  b.rate * b.last - b.tokens

/-- The time at which the token is there that is asked for at a time. -/
def due (b : Bucket ℚ) (now : ℚ) : ℚ :=
  max now ((b.reserve now).spent / b.rate)

section Call

variable (b : Bucket ℚ) (now : ℚ)

@[simp]
theorem rate_reserve : (b.reserve now).rate = b.rate := rfl

@[simp]
theorem burst_reserve : (b.reserve now).burst = b.burst := rfl

theorem tokens_reserve :
    (b.reserve now).tokens = min b.burst (b.tokens + (now - b.last) * b.rate) - 1 :=
  congrArg (· - 1) (Quantity.least_rat _ _)

/-- A call spends one token, and spills first what the burst has no room for. -/
theorem spent_reserve :
    (b.reserve now).spent = max b.spent (b.rate * now - b.burst) + 1 := by
  have held : b.rate * now - (b.tokens + (now - b.last) * b.rate) = b.spent := by
    unfold spent
    ring
  calc
    (b.reserve now).spent
        = b.rate * now - (min b.burst (b.tokens + (now - b.last) * b.rate) - 1) :=
      congrArg (b.rate * now - ·) (b.tokens_reserve now)
    _ = b.rate * now - min b.burst (b.tokens + (now - b.last) * b.rate) + 1 := by
      ring
    _ = max b.spent (b.rate * now - b.burst) + 1 := by
      rw [← max_sub_sub_left, held, max_comm]

theorem spent_lt_spent_reserve : b.spent + 1 ≤ (b.reserve now).spent := by
  rw [spent_reserve]
  exact add_le_add_left (le_max_left _ _) 1

variable {b} (rate_pos : 0 < b.rate)
include rate_pos

theorem rate_mul_due : b.rate * b.due now = max (b.rate * now) (b.reserve now).spent := by
  rw [due, mul_max_of_nonneg _ _ rate_pos.le, mul_div_cancel₀ _ rate_pos.ne']

/-- A bucket with an inflow makes up for a shortfall. -/
theorem shortfall_eq : b.shortfall = .ok (max 0 (-b.tokens / b.rate)) := by
  have enough_iff : Quantity.atMost Quantity.zero b.tokens = true ↔ 0 ≤ b.tokens := by
    simp [Quantity.atMost, Quantity.zero, Quantity.ofInt]
  have flows : Quantity.isZero b.rate = false := by
    simp [Quantity.isZero, Quantity.atMost, Quantity.zero, Quantity.ofInt, rate_pos]
  unfold shortfall
  by_cases enough : 0 ≤ b.tokens
  · rw [if_pos (enough_iff.mpr enough),
      max_eq_left (div_nonpos_of_nonpos_of_nonneg (neg_nonpos.mpr enough) rate_pos.le)]
    rfl
  · rw [if_neg (mt enough_iff.mp enough), flows, if_neg Bool.false_ne_true,
      max_eq_right (div_nonneg (neg_nonneg.mpr (not_le.mp enough).le) rate_pos.le)]

/-- A wait is granted, and it is over when the token is there. -/
theorem wait_eq : (b.wait now).1 = .ok (b.due now - now) := by
  have owed : -(b.reserve now).tokens / b.rate = (b.reserve now).spent / b.rate - now := by
    have spent_eq : (b.reserve now).spent = b.rate * now - (b.reserve now).tokens := rfl
    rw [spent_eq, sub_div, mul_div_cancel_left₀ now rate_pos.ne', neg_div]
    ring
  refine (shortfall_eq (b := b.reserve now) rate_pos).trans (congrArg Except.ok ?_)
  rw [rate_reserve, owed, due, ← max_sub_sub_right, sub_self]

end Call

/-! ## A run of calls -/

/-- The times at which the tokens are there that are asked for at some times. -/
def releases (b : Bucket ℚ) : List ℚ → List ℚ
  | [] => []
  | now :: later => b.due now :: (b.reserve now).releases later

section Run

variable {b : Bucket ℚ} (rate_pos : 0 < b.rate)
include rate_pos

/-- Each of the tokens comes when the inflow has come up to what was spent, those before it included. -/
theorem le_rate_mul_release {times : List ℚ} {j : ℕ} {release : ℚ}
    (released : (b.releases times)[j]? = some release) : b.spent + (j + 1) ≤ b.rate * release := by
  induction times generalizing b j with
  | nil => simp [releases] at released
  | cons now later ih =>
      cases j with
      | zero =>
          obtain rfl : b.due now = release := by simpa [releases] using released
          rw [rate_mul_due now rate_pos]
          simpa using (b.spent_lt_spent_reserve now).trans (le_max_right _ _)
      | succ j =>
          have behind := ih (b := b.reserve now) rate_pos (by simpa [releases] using released)
          have one_more := b.spent_lt_spent_reserve now
          rw [rate_reserve] at behind
          push_cast
          linarith

theorem le_release {times : List ℚ} {start : ℚ} (later : ∀ now ∈ times, start ≤ now) :
    ∀ release ∈ b.releases times, start ≤ release := by
  induction times generalizing b with
  | nil => simp [releases]
  | cons now times ih =>
      obtain ⟨first, later⟩ := List.forall_mem_cons.mp later
      exact List.forall_mem_cons.mpr
        ⟨first.trans (le_max_left _ _), ih (b := b.reserve now) rate_pos later⟩

/-- The tokens come in the order in which they were asked for. -/
theorem pairwise_releases {times : List ℚ} (ordered : times.Pairwise (· ≤ ·)) :
    (b.releases times).Pairwise (· ≤ ·) := by
  induction times generalizing b with
  | nil => exact .nil
  | cons now later ih =>
      obtain ⟨first, ordered⟩ := List.pairwise_cons.mp ordered
      refine List.pairwise_cons.mpr ⟨fun release mem => ?_, ih (b := b.reserve now) rate_pos ordered⟩
      obtain ⟨j, released⟩ := List.mem_iff_getElem?.mp mem
      refine le_of_mul_le_mul_left ?_ rate_pos
      rw [rate_mul_due now rate_pos]
      refine max_le (mul_le_mul_of_nonneg_left ?_ rate_pos.le) ?_
      · exact le_release (b := b.reserve now) rate_pos first release mem
      · refine le_trans ?_ (le_rate_mul_release (b := b.reserve now) rate_pos released)
        linarith [Nat.cast_nonneg (α := ℚ) j]

end Run

/-- Times that lie apart in their order lie apart in time, but for a burst: from one to a later one, as many
tokens flow in as there are times, less the burst. -/
def Spaced (burst rate : ℚ) (times : List ℚ) : Prop :=
  ∀ (i j : ℕ) (r s : ℚ), i ≤ j → times[i]? = some r → times[j]? = some s →
    (j : ℚ) - i + 1 ≤ burst + rate * (s - r)

theorem spaced_releases {b : Bucket ℚ} (rate_pos : 0 < b.rate) (burst_pos : 1 ≤ b.burst)
    (times : List ℚ) : Spaced b.burst b.rate (b.releases times) := by
  induction times generalizing b with
  | nil => simp [Spaced, releases]
  | cons now later ih =>
      intro i j r s in_order first second
      cases i with
      | succ i =>
          cases j with
          | zero => contradiction
          | succ j =>
              have behind := ih (b := b.reserve now) rate_pos burst_pos i j r s
                (Nat.le_of_succ_le_succ in_order) (by simpa [releases] using first)
                (by simpa [releases] using second)
              rw [rate_reserve, burst_reserve] at behind
              push_cast
              linarith
      | zero =>
          obtain rfl : b.due now = r := by simpa [releases] using first
          cases j with
          | zero =>
              obtain rfl : b.due now = s := by simpa [releases] using second
              simpa using burst_pos
          | succ j =>
              -- At the first of the times, no more than a burst was there that is not spent.
              have unspent : b.rate * b.due now ≤ (b.reserve now).spent + (b.burst - 1) := by
                rw [rate_mul_due now rate_pos]
                refine max_le ?_ (le_add_of_nonneg_right (sub_nonneg.mpr burst_pos))
                rw [spent_reserve]
                linarith [le_max_right b.spent (b.rate * now - b.burst)]
              have spent := le_rate_mul_release (b := b.reserve now) rate_pos
                (show ((b.reserve now).releases later)[j]? = some s by simpa [releases] using second)
              rw [rate_reserve] at spent
              push_cast
              linarith

/-! ## Windows -/

/-- A list has no more members of a kind than stand up to the last one of them. -/
theorem exists_last_of_countP {α : Type} (p : α → Bool) (items : List α) :
    items.countP p = 0 ∨ ∃ j item, items[j]? = some item ∧ p item = true ∧ items.countP p ≤ j + 1 := by
  induction items with
  | nil => exact .inl rfl
  | cons item rest ih =>
      rw [List.countP_cons]
      rcases ih with none_left | ⟨j, last, found, holds, bound⟩
      · by_cases own : p item = true
        · exact .inr ⟨0, item, rfl, own, by simp [none_left, own]⟩
        · exact .inl (by simp [none_left, own])
      · refine .inr ⟨j + 1, last, found, holds, Nat.add_le_add bound ?_⟩
        split <;> simp

/-- A time lies in the window that opens at a time and has a width. -/
def inWindow (opening width time : ℚ) : Bool :=
  opening ≤ time ∧ time ≤ opening + width

/-- In a window stand no more times than flow in while it is open, and a burst. -/
theorem countP_inWindow_le {burst rate : ℚ} {times : List ℚ} (spaced : Spaced burst rate times)
    (burst_nonneg : 0 ≤ burst) (rate_nonneg : 0 ≤ rate) (opening : ℚ) {width : ℚ}
    (width_nonneg : 0 ≤ width) :
    (times.countP (inWindow opening width) : ℚ) ≤ burst + rate * width := by
  have inflow : 0 ≤ rate * width := mul_nonneg rate_nonneg width_nonneg
  induction times with
  | nil => simpa using add_nonneg burst_nonneg inflow
  | cons first later ih =>
      have later_spaced : Spaced burst rate later := fun i j r s in_order found found' => by
        have behind := spaced (i + 1) (j + 1) r s (Nat.succ_le_succ in_order) found found'
        push_cast at behind
        linarith
      rw [List.countP_cons]
      split
      next inside =>
        obtain ⟨opened, -⟩ := of_decide_eq_true inside
        rcases exists_last_of_countP (inWindow opening width) later with
          none_left | ⟨j, last, found, holds, bound⟩
        · have alone := spaced 0 0 first first le_rfl rfl rfl
          rw [none_left]
          push_cast at alone ⊢
          linarith
        · obtain ⟨-, closed⟩ := of_decide_eq_true holds
          have apart := spaced 0 (j + 1) first last (Nat.zero_le _) rfl found
          have within_width : rate * (last - first) ≤ rate * width :=
            mul_le_mul_of_nonneg_left (by linarith) rate_nonneg
          have counted : (later.countP (inWindow opening width) : ℚ) ≤ j + 1 := by
            exact_mod_cast bound
          push_cast at apart ⊢
          linarith
      next => simpa using ih later_spaced

/-! ## The limiter -/

open RateLimiter (Call Grant)

variable {ι : Type} [BEq ι]

theorem map_release_grants {b : Bucket ℚ} (rate_pos : 0 < b.rate) (calls : List (Call ι ℚ)) :
    ((RateLimiter.bucket b).grants calls).map Grant.release =
      (b.releases (calls.filterMap Call.time?)).map .ok := by
  induction calls generalizing b with
  | nil => rfl
  | cons call rest ih =>
      cases call with
      | forget item => exact ih rate_pos
      | wait now item =>
          have waited : (RateLimiter.bucket b : RateLimiter ι ℚ).wait now item =
              (.ok (b.due now - now), .bucket (b.reserve now)) := by
            rw [RateLimiter.wait, wait_eq now rate_pos]
            rfl
          have released : (⟨item, now, .ok (b.due now - now)⟩ : Grant ι ℚ).release = .ok (b.due now) :=
            congrArg Except.ok (add_sub_cancel now _)
          rw [RateLimiter.grants, RateLimiter.apply, waited, List.map_cons, released,
            ih (b := b.reserve now) rate_pos]
          rfl

/-- A bucket with an inflow and a whole burst grants every wait, whatever was asked for before.  Where the
times of the calls do not decrease, those of the releases do not either; from one release to a later one
flow in as many tokens as are released, but for a burst; and so no window of time lets through more than the
burst and what flows in while it is open. -/
theorem releases_limited {rate : ℚ} {burst : ℤ} (rate_pos : 0 < rate) (burst_pos : 1 ≤ burst)
    (start : ℚ) {calls : List (Call ι ℚ)}
    (ordered : (calls.filterMap Call.time?).Pairwise (· ≤ ·)) :
    ∃ releases : List ℚ,
      ((RateLimiter.bucket (.full rate burst start) : RateLimiter ι ℚ).grants calls).map
          Grant.release = releases.map .ok ∧
        releases.Pairwise (· ≤ ·) ∧
        (∀ (i j : ℕ) (r s : ℚ), i ≤ j → releases[i]? = some r → releases[j]? = some s →
          (j : ℚ) - i + 1 ≤ burst + rate * (s - r)) ∧
        ∀ opening width : ℚ, 0 ≤ width →
          (releases.countP fun release => opening ≤ release ∧ release ≤ opening + width) ≤
            burst + rate * width := by
  let b : Bucket ℚ := .full rate burst start
  have burst_pos : (1 : ℚ) ≤ burst := by exact_mod_cast burst_pos
  have spaced : Spaced burst rate (b.releases (calls.filterMap Call.time?)) :=
    spaced_releases (b := b) rate_pos burst_pos _
  exact ⟨_, map_release_grants (b := b) rate_pos calls, pairwise_releases rate_pos ordered, spaced,
    fun opening width nonneg => countP_inWindow_le spaced (zero_le_one.trans burst_pos) rate_pos.le
      opening nonneg⟩

/-- Calls of a bucket with a burst of two: three at once, and two more after it has stood idle. -/
def hurriedCalls : List (Call String ℚ) :=
  [.wait 0 "a", .wait 0 "b", .wait 0 "c", .forget "a", .wait 10 "a", .wait 10 "b"]

/-- The third of the calls at once is put off, so that within a second no more than three go through; and
the idle time is worth no more than the burst. -/
theorem releases_limited_hurried :
    ((RateLimiter.bucket (.full 1 2 0) : RateLimiter String ℚ).grants hurriedCalls).map
        Grant.release = [0, 0, 1, 10, 10].map .ok ∧
      (([0, 0, 1, 10, 10] : List ℚ).countP fun release => 0 ≤ release ∧ release ≤ 1) ≤
        (2 : ℚ) + 1 * 1 := by
  have ordered : (hurriedCalls.filterMap Call.time?).Pairwise (· ≤ ·) := by
    change [0, 0, 0, 10, 10].Pairwise (· ≤ · : ℚ → ℚ → Prop)
    simp
  have computed :
      ((RateLimiter.bucket (.full 1 2 0) : RateLimiter String ℚ).grants hurriedCalls).map
        Grant.release = [0, 0, 1, 10, 10].map .ok := by
    have released : (full 1 2 0 : Bucket ℚ).releases [0, 0, 0, 10, 10] = [0, 0, 1, 10, 10] := by
      decide +kernel
    exact (map_release_grants one_pos hurriedCalls).trans (congrArg (List.map Except.ok) released)
  obtain ⟨releases, granted, -, -, window⟩ :=
    releases_limited one_pos (show (1 : ℤ) ≤ 2 by decide) 0 ordered
  obtain rfl : releases = [0, 0, 1, 10, 10] :=
    (List.map_inj_right fun _ _ => Except.ok.inj).mp (granted.symm.trans computed)
  exact ⟨computed, by simpa using window 0 1 zero_le_one⟩

end Bucket

end Reconciler
