import Reconciler.Controller.Running
import Reconciler.Proofs.Session.Frame
import Reconciler.Proofs.WorkQueue.Failures

/-!
# What the processing of an event does

An event is dispatched in a span and a scope of its own, and settled by how the dispatch ended.  Only
reports stand around the two, so the state after the processing is that of the settling.
-/

namespace Reconciler

instance {ω : Type} : LawfulInSession (Desk ω) :=
  ⟨fun _ _ => rfl⟩

instance {ω : Type} : LawfulInSession (ControlState ω) :=
  ⟨fun _ _ => rfl⟩

/-- The state after something was reported. -/
def ControlState.reporting {ω : Type} (change : Telemetry → Telemetry) (s : ControlState ω) :
    ControlState ω :=
  { s with session := { s.session with telemetry := change s.session.telemetry } }

section Reports

variable {ω α : Type} (s : ControlState ω)

@[simp]
theorem final_report (change : Telemetry → Telemetry) :
    final (report change) s = s.reporting change := rfl

theorem final_inScope (scope : Scope) (act : Control ω α) :
    ∃ outer : Option Scope,
      final (inScope scope act) s =
        (final act (s.reporting fun telemetry => { telemetry with scope := some scope })).reporting
          fun telemetry => { telemetry with scope := outer } := by
  refine ⟨s.session.telemetry.scope, ?_⟩
  simp only [inScope, telemetry, setScope, inSession, answer_bind, final_bind, answer_within,
    final_within, answer_get, final_get, answer_pure, final_pure, answer_report, final_report,
    answer_attempt, final_attempt, final_ofExcept]
  rfl

end Reports

namespace Controller

variable {ω : Type} [World ω] (controller : Controller ω) (event : Event) (s : ControlState ω)

/-- What is reported before an event is dispatched: its scope begins, and its span. -/
def entering (event : Event) (telemetry : Telemetry) : Telemetry :=
  { telemetry with
    scope := some ⟨event.id, event.type.text, event.ref.text⟩
    tracer :=
      (telemetry.tracer.openSpan ("reconcile." ++ Text.lower event.type.text) event.ref.kind
        [(.text "resource.name", .text event.ref.name),
          (.text "resource.namespace", .text event.ref.namespace_)]).change
        (·.setAttribute "correlation_id" (.text event.id)) }

/-- How the dispatch of an event ends. -/
def outcome : Except Failure Unit :=
  answer (controller.dispatch event) (s.reporting (entering event))

/-- The state in which the dispatch of an event ends. -/
def ended : ControlState ω :=
  final (controller.dispatch event) (s.reporting (entering event))

/-- The failure of a dispatch. -/
def failure? : Except Failure Unit → Option Failure
  | .ok () => none
  | .error failure => some failure

/-- An event is settled by how its dispatch ended, and around the two only the open span and the scope
are reported. -/
theorem final_process :
    ∃ judging leaving : Telemetry → Telemetry,
      Telemetry.CountsNoRetry judging ∧ Telemetry.CountsNoRetry leaving ∧
      final (controller.process event) s =
        (final (controller.settle event (failure? (controller.outcome event s)))
          ((controller.ended event s).reporting judging)).reporting leaving := by
  unfold process
  obtain ⟨outer, in_scope⟩ := final_inScope s ⟨event.id, event.type.text, event.ref.text⟩ _
  rw [in_scope]
  obtain ⟨close, in_span⟩ :=
    final_inSpan
      (s.reporting fun telemetry =>
        { telemetry with scope := some ⟨event.id, event.type.text, event.ref.text⟩ }) _ _ _ _
  rw [in_span]
  simp only [setAttribute, setStatus, inTrace, final_bind, answer_report, final_report,
    answer_attempt, final_attempt]
  let leaving (telemetry : Telemetry) : Telemetry :=
    { telemetry with tracer := close telemetry.tracer, scope := outer }
  have quiet : Telemetry.CountsNoRetry leaving := fun _ _ _ => rfl
  split
  next succeeded =>
    refine ⟨_, leaving, .trace (·.change (·.setStatus .ok)), quiet, ?_⟩
    rw [show controller.outcome event s = .ok () from succeeded]
    rfl
  next failure failed =>
    refine ⟨_, leaving, .trace (·.change (·.setStatus (.error failure.sanitized))), quiet, ?_⟩
    rw [show controller.outcome event s = .error failure from failed]
    rfl

/-! ## Dispatching -/

/-- A dispatch works in the session, and adds events to the queue. -/
theorem keeps_dispatch {γ : Type} {view : ControlState ω → γ}
    (apart : ∀ session t, view { t with session } = view t)
    (added : ∀ (event : Event) t, view { t with queue := t.queue.add event } = view t)
    (delayed : ∀ (event : Event) now delay t,
      view { t with queue := t.queue.addAfter now event delay } = view t) :
    Keeps view (controller.dispatch event) := by
  have session_apart {α : Type} (work : Work ω α) : Keeps view (inSession work) :=
    keeps_inSession_apart apart
  have log_apart (level : Level) (text : String) : Keeps view (log level text) :=
    keeps_report_apart apart _
  have new_event (type : EventType) (ref : ObjectRef) :
      Keeps view (Control.newEvent (ω := ω) type ref) :=
    keeps_bind (session_apart _) fun _ => keeps_pure _
  unfold dispatch
  refine keeps_bind (session_apart _) fun found => ?_
  cases found with
  | none => exact log_apart _ _
  | some doc =>
      refine keeps_bind (session_apart _) fun next => ?_
      cases next with
      | nothing => exact keeps_pure _
      | update reason =>
          refine keeps_bind (log_apart _ _) fun _ => keeps_bind (new_event _ _) fun event => ?_
          exact keeps_modify fun t => added event t
      | create =>
          refine keeps_bind (new_event _ _) fun event => keeps_bind (session_apart _) fun now => ?_
          exact keeps_modify fun t => delayed event now _ t

/-- A dispatch counts no failure. -/
theorem keeps_limiter_dispatch :
    Keeps (fun t : ControlState ω => t.queue.limiter) (controller.dispatch event) :=
  controller.keeps_dispatch event (fun _ _ => rfl) (fun event t => t.queue.add_limiter event)
    fun event now delay t => t.queue.addAfter_limiter event now delay

/-! ## Settling -/

omit [World ω] in
@[simp]
theorem answer_onQueue (change : EventQueue → EventQueue) :
    answer (Control.onQueue change) s = .ok () := rfl

omit [World ω] in
@[simp]
theorem final_onQueue (change : EventQueue → EventQueue) :
    final (Control.onQueue change) s = { s with queue := change s.queue } := rfl

theorem final_addRateLimited :
    final (Control.addRateLimited event) s =
      { s with queue := (s.queue.addRateLimited (World.steadyClock s.session.world) event).2 } := by
  change final (ofExcept _ : Control ω Unit) _ = _
  rw [final_ofExcept]
  rfl

variable {s}

theorem final_settle_failed {retries : Nat} (counted : s.queue.requeues event = .ok retries)
    (failure : Failure) :
    final (controller.settle event (some failure)) s =
      if (retries : Int) < controller.options.maxRetries then
        final (controller.retry event retries failure) s
      else final (controller.drop event retries failure) s := by
  unfold settle
  simp only [final_bind, answer_get, final_get, counted, answer_ofExcept, final_ofExcept]
  split <;> rfl

/-- A retry is logged and counted, and adds the event again. -/
theorem final_retry (retries : Nat) (failure : Failure) (s : ControlState ω) :
    ∃ text,
      final (controller.retry event retries failure) s =
        { s.reporting fun telemetry =>
            (telemetry.log .warning text).count (.requeues event.ref.kind) with
          queue := (s.queue.addRateLimited (World.steadyClock s.session.world) event).2 } := by
  unfold retry log count
  simp only [final_bind, answer_report, final_report, final_addRateLimited]
  exact ⟨_, rfl⟩

/-- Giving up an event is logged and counted, forgets its failures, and marks the resource. -/
theorem final_drop (retries : Nat) (failure : Failure) (s : ControlState ω) :
    ∃ text,
      final (controller.drop event retries failure) s =
        { s with
          queue := s.queue.forget event
          session :=
            final (controller.markFailed event.ref failure)
              (s.reporting fun telemetry =>
                (telemetry.log .error text).count
                  (.drops event.ref.kind event.type.text)).session } := by
  unfold drop log count inSession
  simp only [final_bind, answer_report, final_report, answer_onQueue, final_onQueue, final_within]
  exact ⟨_, rfl⟩

end Controller

/-! ## Worlds -/

/-- No call to the cluster counts a retry, or an event that is given up. -/
theorem detached_retries {ω : Type} [World ω] {metric : Metric}
    (ofRetries : metric.isOfRetries = true) :
    Detached fun session : Session ω => session.telemetry.counts.count metric where
  called _ _ := rfl
  identified _ := rfl
  reported quiet session := quiet session.telemetry metric ofRetries

/-- A world with a single object, in which all but reading it, writing it and finding kinds is refused. -/
structure Lone where
  /-- The answer to each read of an object. -/
  object : Except Failure Value
  /-- The reading of the clock that is never set. -/
  now : Number

namespace Lone

/-- The refusal of a call. -/
def refusal : Failure :=
  .cluster (some 503) "Service Unavailable"

instance : World Lone where
  cluster
    | .get .., world => (world.object, world)
    | .replace _ _ _ body, world => (.ok body, { world with object := .ok body })
    | .discoverKind .., world => (.ok "repos", world)
    | _, world => (.error refusal, world)
  wire _ world := (.error refusal, world)
  chart _ world := (.error refusal, world)
  file _ _ := .error .absent
  wallClock _ := "1970-01-01T00:00:00Z"
  steadyClock world := world.now
  freshId world := ("0", world)

/-- A session in a world with a single object. -/
def session (object : Except Failure Value) (now : Number) : Session Lone :=
  ⟨⟨object, now⟩, .start .critical false, ⟨true, false⟩, .empty now, none⟩

end Lone

end Reconciler
