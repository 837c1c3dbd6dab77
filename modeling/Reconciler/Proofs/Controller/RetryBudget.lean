import Mathlib.Data.Nat.Cast.Order.Ring
import Reconciler.Proofs.Controller.Processing
import Reconciler.Proofs.WorkQueue.History

/-!
# The budget of retries

Events are processed in any order, with anything in between that leaves the counted failures alone.
The limiter of the queue then counts the failures of each event since it last succeeded or was given
up, the count never leaves the budget, and an event is given up exactly when its budget is used up.
-/

namespace Reconciler

/-- How often a metric was counted. -/
def ControlState.counted {ω : Type} (metric : Metric) (s : ControlState ω) : Nat :=
  s.session.telemetry.counts.count metric

/-- How the processing of an event ended. -/
inductive Ending where
  /-- The dispatch succeeded. -/
  | succeeded
  /-- The dispatch failed, and the event was not given up. -/
  | retried
  /-- The dispatch failed, and one more event of its kind and type was counted as given up. -/
  | dropped
deriving DecidableEq, Repr

/-- The failures of an event since it last succeeded or was given up. -/
def failuresSince (event : Event) (past : List (Event × Ending)) : Nat :=
  past.foldl
    (fun failures processed =>
      if processed.1 == event then
        match processed.2 with
        | .retried => failures + 1
        | .succeeded | .dropped => 0
      else failures)
    0

@[simp]
theorem failuresSince_nil (event : Event) : failuresSince event [] = 0 := rfl

theorem failuresSince_concat (event processed : Event) (ending : Ending)
    (past : List (Event × Ending)) :
    failuresSince event (past ++ [(processed, ending)]) =
      if processed == event then
        match ending with
        | .retried => failuresSince event past + 1
        | .succeeded | .dropped => 0
      else failuresSince event past := by
  simp [failuresSince]

namespace Controller

variable {ω : Type} [World ω] {controller : Controller ω} {event : Event}

/-- How the processing of an event ends: a failed event was given up when the count of such events has
grown since the dispatch ended. -/
def ending (controller : Controller ω) (event : Event) (s : ControlState ω) : Ending :=
  let drops := ControlState.counted (.drops event.ref.kind event.type.text)
  match controller.outcome event s with
  | .ok () => .succeeded
  | .error _ =>
    if drops (controller.ended event s) < drops (final (controller.process event) s) then .dropped
    else .retried

/-- A state is reached after some events were processed, each with its ending.  What happens in between
is not restricted, but that it leaves the limiter alone. -/
inductive Reached (controller : Controller ω) : List (Event × Ending) → ControlState ω → Prop where
  /-- The controller starts with the usual limiter. -/
  | start (session : Session ω) (now : Number) :
    Reached controller [] (.start session (.standard now))
  /-- Something else happens. -/
  | meanwhile {past : List (Event × Ending)} {s t : ControlState ω}
    (before : Reached controller past s) (same : t.queue.limiter = s.queue.limiter) :
    Reached controller past t
  /-- An event is processed. -/
  | process {past : List (Event × Ending)} {s : ControlState ω} (before : Reached controller past s)
    (event : Event) :
    Reached controller (past ++ [(event, controller.ending event s)])
      (final (controller.process event) s)

/-- What follows on a failure for which the event is tried again. -/
structure Retried (event : Event) (ended after : ControlState ω) : Prop where
  /-- One retry of the kind is counted, and nothing else of retries. -/
  counted : ∀ metric, metric.isOfRetries = true →
    after.counted metric =
      ended.counted metric + if metric = .requeues event.ref.kind then 1 else 0
  /-- The world outside is left alone: the resource is not marked. -/
  unmarked : after.session.world = ended.session.world
  /-- The event is added again once, after the wait that the limiter asks for, unless the queue is
  closed. -/
  delayed : ∃ delay limiter,
    ended.queue.limiter.wait (World.steadyClock ended.session.world) event = (.ok delay, limiter) ∧
    Quantity.below Quantity.zero delay = true ∧
    after.queue =
      { ended.queue with
        limiter
        waiting :=
          if ended.queue.closed then ended.queue.waiting
          else
            WorkQueue.schedule ⟨World.steadyClock ended.session.world + delay, event⟩
              ended.queue.waiting }

/-- What follows on a failure for which the event is given up. -/
structure Dropped (controller : Controller ω) (event : Event) (failure : Failure)
    (ended after : ControlState ω) : Prop where
  /-- One event of the kind and type is counted as given up, and nothing else of retries. -/
  counted : ∀ metric, metric.isOfRetries = true →
    after.counted metric =
      ended.counted metric + if metric = .drops event.ref.kind event.type.text then 1 else 0
  /-- But for reports, the session is as the marking of the resource, done once, leaves it. -/
  marked : ∃ telemetry reported : Telemetry,
    after.session =
      { final (controller.markFailed event.ref failure) { ended.session with telemetry } with
        telemetry := reported }
  /-- The event is not added again, and its failures are forgotten. -/
  forgotten : after.queue = ended.queue.forget event

variable {s : ControlState ω} {failures : FailureCounts Event} {tokens last : Number}
  {failure : Failure}

/-- Success forgets the failures of the event, and nothing else changes in the queue. -/
theorem queue_of_succeeded (succeeded : controller.outcome event s = .ok ()) :
    (final (controller.process event) s).queue =
      (controller.ended event s).queue.forget event := by
  obtain ⟨judging, leaving, -, -, processed⟩ := controller.final_process event s
  rw [processed, succeeded]
  rfl

/-- A failed event is tried again when the limiter counts fewer failures than the budget has, and given
up otherwise. -/
theorem final_process_failed
    (limited : (controller.ended event s).queue.limiter = .usual failures tokens last)
    (failed : controller.outcome event s = .error failure) :
    ∃ judging leaving : Telemetry → Telemetry,
      Telemetry.CountsNoRetry judging ∧ Telemetry.CountsNoRetry leaving ∧
      final (controller.process event) s =
        (if (failures.count event : Int) < controller.options.maxRetries then
          final (controller.retry event (failures.count event) failure)
            ((controller.ended event s).reporting judging)
        else
          final (controller.drop event (failures.count event) failure)
            ((controller.ended event s).reporting judging)).reporting leaving := by
  obtain ⟨judging, leaving, judging_quiet, leaving_quiet, processed⟩ :=
    controller.final_process event s
  refine ⟨judging, leaving, judging_quiet, leaving_quiet, ?_⟩
  have requeues_eq :
      ((controller.ended event s).reporting judging).queue.requeues event =
        .ok (failures.count event) := by
    change (controller.ended event s).queue.limiter.requeues event = _
    rw [limited, RateLimiter.requeues_usual]
  rw [processed, failed, failure?, controller.final_settle_failed event requeues_eq]

theorem retried_of_count_lt
    (limited : (controller.ended event s).queue.limiter = .usual failures tokens last)
    (failed : controller.outcome event s = .error failure)
    (count_lt : (failures.count event : Int) < controller.options.maxRetries) :
    Retried event (controller.ended event s) (final (controller.process event) s) ∧
      ∃ tokens' last',
        (final (controller.process event) s).queue.limiter =
          .usual (failures.record event) tokens' last' := by
  obtain ⟨judging, leaving, judging_quiet, leaving_quiet, processed⟩ :=
    final_process_failed limited failed
  set ended := controller.ended event s
  obtain ⟨text, settled⟩ :=
    controller.final_retry event (failures.count event) failure (ended.reporting judging)
  rw [if_pos count_lt, settled] at processed
  obtain ⟨delay, tokens', waited, positive, added⟩ :=
    WorkQueue.addRateLimited_usual limited (World.steadyClock ended.session.world) event
  have queue_eq : (final (controller.process event) s).queue = _ :=
    (congrArg ControlState.queue processed).trans (congrArg Prod.snd added)
  refine ⟨⟨fun metric ofRetries => ?_, ?_, ⟨delay, _, waited, positive, queue_eq⟩⟩,
    tokens', World.steadyClock ended.session.world, ?_⟩
  · rw [processed]
    simp only [ControlState.counted, ControlState.reporting, leaving_quiet _ metric ofRetries,
      Telemetry.counts_count, Telemetry.CountsNoRetry.log _ _ _ metric ofRetries,
      judging_quiet _ metric ofRetries]
  · rw [processed]
    rfl
  · rw [queue_eq]

theorem dropped_of_count_eq
    (limited : (controller.ended event s).queue.limiter = .usual failures tokens last)
    (failed : controller.outcome event s = .error failure)
    (count_eq : (failures.count event : Int) = controller.options.maxRetries) :
    Dropped controller event failure (controller.ended event s)
      (final (controller.process event) s) := by
  obtain ⟨judging, leaving, judging_quiet, leaving_quiet, processed⟩ :=
    final_process_failed limited failed
  set ended := controller.ended event s
  obtain ⟨text, settled⟩ :=
    controller.final_drop event (failures.count event) failure (ended.reporting judging)
  rw [if_neg (by omega), settled] at processed
  refine ⟨fun metric ofRetries => ?_, ⟨_, _, congrArg ControlState.session processed⟩, ?_⟩
  · have marking := (detached_retries ofRetries).keeps_made
      (controller.made_markFailed event.ref rfl failure)
    rw [processed]
    simp only [ControlState.counted, ControlState.reporting, leaving_quiet _ metric ofRetries]
    refine (marking _).trans ?_
    simp only [Telemetry.counts_count, Telemetry.CountsNoRetry.log _ _ _ metric ofRetries,
      judging_quiet _ metric ofRetries]
  · rw [processed]
    rfl

theorem ending_of_retried (failed : controller.outcome event s = .error failure)
    (retried : Retried event (controller.ended event s) (final (controller.process event) s)) :
    controller.ending event s = .retried := by
  have same := retried.counted (.drops event.ref.kind event.type.text) rfl
  simp [ending, failed, same]

theorem ending_of_dropped (failed : controller.outcome event s = .error failure)
    (dropped : Dropped controller event failure (controller.ended event s)
      (final (controller.process event) s)) :
    controller.ending event s = .dropped := by
  have more := dropped.counted (.drops event.ref.kind event.type.text) rfl
  simp [ending, failed, more]

theorem ending_of_succeeded (succeeded : controller.outcome event s = .ok ()) :
    controller.ending event s = .succeeded := by
  simp [ending, succeeded]

variable {past : List (Event × Ending)}

/-- The limiter counts the failures of each event since it last succeeded or was given up, and no count
exceeds the budget. -/
def Budgeted (controller : Controller ω) (past : List (Event × Ending)) (s : ControlState ω) : Prop :=
  ∃ failures tokens last,
    s.queue.limiter = .usual failures tokens last ∧
    ∀ event, failures.count event = failuresSince event past ∧
      (failuresSince event past : Int) ≤ controller.options.maxRetries

theorem limiter_ended (controller : Controller ω) (event : Event) (s : ControlState ω) :
    (controller.ended event s).queue.limiter = s.queue.limiter :=
  controller.keeps_limiter_dispatch event _

theorem Budgeted.process (allowed : 0 ≤ controller.options.maxRetries)
    (budgeted : Budgeted controller past s) (event : Event) :
    Budgeted controller (past ++ [(event, controller.ending event s)])
      (final (controller.process event) s) := by
  obtain ⟨failures, tokens, last, limited, counts⟩ := budgeted
  rw [← limiter_ended controller event s] at limited
  have within := (counts event).2
  rw [← (counts event).1] at within
  cases ended_by : controller.outcome event s with
  | ok _ =>
      refine ⟨failures.forget event, tokens, last, ?_, fun x => ?_⟩
      · rw [queue_of_succeeded ended_by, WorkQueue.forget, limited, RateLimiter.forget_usual]
      · rw [failures.count_forget, failuresSince_concat, ending_of_succeeded ended_by]
        cases same : event == x <;> simp [counts x, allowed]
  | error failure =>
      rcases within.lt_or_eq with count_lt | count_eq
      · obtain ⟨retried, tokens', last', limited'⟩ := retried_of_count_lt limited ended_by count_lt
        refine ⟨failures.record event, tokens', last', limited', fun x => ?_⟩
        rw [failures.count_record, failuresSince_concat, ending_of_retried ended_by retried]
        cases same : event == x with
        | false => simp [counts x]
        | true =>
            rw [failures.count_congr same, (counts x).1] at count_lt
            simp [(counts x).1, Int.add_one_le_of_lt count_lt]
      · have dropped := dropped_of_count_eq limited ended_by count_eq
        refine ⟨failures.forget event, tokens, last, ?_, fun x => ?_⟩
        · rw [dropped.forgotten, WorkQueue.forget, limited, RateLimiter.forget_usual]
        · rw [failures.count_forget, failuresSince_concat, ending_of_dropped ended_by dropped]
          cases same : event == x <;> simp [counts x, allowed]

theorem Reached.budgeted (allowed : 0 ≤ controller.options.maxRetries)
    (reached : Reached controller past s) : Budgeted controller past s := by
  induction reached with
  | start session now => exact ⟨[], _, now, RateLimiter.standard_eq_usual now, by simp [allowed]⟩
  | meanwhile before same budgeted =>
      obtain ⟨failures, tokens, last, limited, counts⟩ := budgeted
      exact ⟨failures, tokens, last, same.trans limited, counts⟩
  | process before event budgeted => exact budgeted.process allowed event

/-- The limiter counts the failures of each event since it last succeeded or was given up, and they
never exceed the budget.  An event that fails is given up exactly when its budget is used up; then it
is counted, its resource is marked once, and its failures are forgotten.  Otherwise a retry is counted,
and the event is added again once, after a wait. -/
theorem retries_within_budget (allowed : 0 ≤ controller.options.maxRetries)
    (reached : Reached controller past s) :
    (∀ event, s.queue.requeues event = .ok (failuresSince event past) ∧
      (failuresSince event past : Int) ≤ controller.options.maxRetries) ∧
    ∀ event failure, controller.outcome event s = .error failure →
      (controller.ending event s = .dropped ↔
        (failuresSince event past : Int) = controller.options.maxRetries) ∧
      (controller.ending event s = .dropped →
        Dropped controller event failure (controller.ended event s)
          (final (controller.process event) s) ∧
        (final (controller.process event) s).queue.requeues event = .ok 0) ∧
      (controller.ending event s ≠ .dropped →
        Retried event (controller.ended event s) (final (controller.process event) s)) := by
  obtain ⟨failures, tokens, last, limited, counts⟩ := reached.budgeted allowed
  refine ⟨fun x => ⟨?_, (counts x).2⟩, fun event failure failed => ?_⟩
  · rw [WorkQueue.requeues, limited, RateLimiter.requeues_usual, (counts x).1]
  rw [← limiter_ended controller event s] at limited
  have within := (counts event).2
  rw [← (counts event).1] at within ⊢
  rcases within.lt_or_eq with count_lt | count_eq
  · obtain ⟨retried, -⟩ := retried_of_count_lt limited failed count_lt
    simp [ending_of_retried failed retried, retried, count_lt.ne]
  · have dropped := dropped_of_count_eq limited failed count_eq
    have forgotten : (final (controller.process event) s).queue.requeues event = .ok 0 := by
      rw [dropped.forgotten, WorkQueue.requeues, WorkQueue.forget, limited,
        RateLimiter.forget_usual, RateLimiter.requeues_usual, failures.count_forget]
      simp
    simp [ending_of_dropped failed dropped, dropped, count_eq, forgotten]

/-- A controller that tries a failed event again once. -/
def persistent : Controller Lone where
  handler := ⟨pure true, pure (), pure (), pure ()⟩
  resource := ⟨"example.com", "v1", "repos"⟩
  recorder := .standard false
  options := { ControlOptions.standard with maxRetries := 1 }

/-- An event about a resource that cannot be read. -/
def unreadable : Event :=
  ⟨.observe, ⟨"example.com/v1", "Repo", "first", "default"⟩, "1"⟩

theorem outcome_unreadable (s : ControlState Lone)
    (refused : s.session.world.object = .error Lone.refusal) :
    persistent.outcome unreadable s = .error Lone.refusal := by
  obtain ⟨⟨⟨object, now⟩, _, _, _, _⟩, _, _, _⟩ := s
  obtain rfl : object = .error Lone.refusal := refused
  rfl

/-- The first failure is tried again, and the second one is given up. -/
theorem retries_within_budget_unreadable :
    let first := ControlState.start (Lone.session (.error Lone.refusal) (.whole 0))
      (.standard (.whole 0))
    let second := final (persistent.process unreadable) first
    0 ≤ persistent.options.maxRetries ∧
      persistent.Reached [(unreadable, .retried)] second ∧
      persistent.outcome unreadable second = .error Lone.refusal ∧
      persistent.ending unreadable second = .dropped ∧
      (final (persistent.process unreadable) second).queue.requeues unreadable = .ok 0 := by
  intro first second
  have allowed : 0 ≤ persistent.options.maxRetries := by decide
  have reached : persistent.Reached [] first := .start _ _
  have failed : persistent.outcome unreadable first = .error Lone.refusal :=
    outcome_unreadable first rfl
  obtain ⟨dropped_iff, -, retried⟩ :=
    (retries_within_budget allowed reached).2 unreadable _ failed
  have retried := retried fun dropped => absurd (dropped_iff.mp dropped) (by decide)
  have reached_second := reached.process unreadable
  rw [ending_of_retried failed retried] at reached_second
  have failed_again : persistent.outcome unreadable second = .error Lone.refusal :=
    outcome_unreadable second (congrArg Lone.object retried.unmarked)
  obtain ⟨dropped_iff, dropped, -⟩ :=
    (retries_within_budget allowed reached_second).2 unreadable _ failed_again
  have used_up := dropped_iff.mpr (by decide)
  exact ⟨allowed, reached_second, failed_again, used_up, (dropped used_up).2⟩

end Controller

end Reconciler
