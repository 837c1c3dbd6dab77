import Reconciler.Proofs.Session.Parts

/-!
# What calls to the cluster leave alone

The operator talks to the cluster in many places that do not matter to what is being followed.  A view
of sessions is detached when no answer of the cluster, no fresh identifier and no report shows in it;
the one exception is the count of retries and of events that are given up.  Work that only talks to the
cluster then keeps the view, whatever it is put together from.  A view that is detached but for the writes
to the cluster is kept by work that only reads from it.
-/

namespace Reconciler

namespace Counts

theorem count_cons (metric other : Metric) (n : Nat) (rest : Counts) :
    count ((other, n) :: rest) metric = if metric = other then n else rest.count metric := by
  by_cases same : metric = other
  · simp [count, same]
  · simp [count, List.lookup_cons, same, beq_eq_false_iff_ne.mpr same]

theorem count_increment (counts : Counts) (metric other : Metric) :
    count (increment other counts) metric =
      counts.count metric + if metric = other then 1 else 0 := by
  induction counts with
  | nil =>
      rw [increment, count_cons]
      simp [count]
  | cons entry rest ih =>
      obtain ⟨m, n⟩ := entry
      by_cases here : m = other
      · subst here
        rw [increment, if_pos rfl, count_cons, count_cons]
        split <;> rfl
      · rw [increment, if_neg here, count_cons, count_cons]
        split
        · next same => simp [same, here]
        · exact ih

end Counts

theorem Telemetry.counts_count (telemetry : Telemetry) (metric other : Metric) :
    (telemetry.count other).counts.count metric =
      telemetry.counts.count metric + if metric = other then 1 else 0 :=
  Counts.count_increment telemetry.counts metric other

/-- A change of what was reported counts no retry, and no event that is given up. -/
def Telemetry.CountsNoRetry (change : Telemetry → Telemetry) : Prop :=
  ∀ telemetry metric, metric.isOfRetries = true →
    (change telemetry).counts.count metric = telemetry.counts.count metric

namespace Telemetry.CountsNoRetry

theorem log (level : Level) (text : String) : CountsNoRetry (·.log level text) := by
  intro telemetry metric _
  simp only [Telemetry.log]
  split <;> rfl

theorem logRecord (level : Level) (record : LogRecord) (additional : Fields) :
    CountsNoRetry (·.logRecord level record additional) :=
  fun telemetry => log level _ telemetry

theorem count {metric : Metric} (other : metric.isOfRetries = false) :
    CountsNoRetry (·.count metric) := by
  intro telemetry counted ofRetries
  have apart : counted ≠ metric := by
    rintro rfl
    rw [ofRetries] at other
    contradiction
  simp [Telemetry.counts_count, apart]

theorem trace (change : Tracer → Tracer) :
    CountsNoRetry fun telemetry => { telemetry with tracer := change telemetry.tracer } :=
  fun _ _ _ => rfl

end Telemetry.CountsNoRetry

/-- States that hold a session give back the one that was put into them. -/
class LawfulInSession (σ : Type) {ω : Type} [InSession σ ω] : Prop where
  /-- The session that was put into a state is its session. -/
  session_withSession (session : Session ω) (s : σ) :
    InSession.session (InSession.withSession session s) = session

instance {ω : Type} : LawfulInSession (Session ω) :=
  ⟨fun _ _ => rfl⟩

/-- A view of sessions shows nothing of the traffic with the cluster, of fresh identifiers, and of
reports that count no retry. -/
structure Detached {ω γ : Type} [World ω] (view : Session ω → γ) : Prop where
  /-- It does not show what a call to the cluster changes. -/
  called {α : Type} (call : ClusterCall α) (session : Session ω) :
    view { session with world := (World.cluster call session.world).2 } = view session
  /-- It does not show that an identifier was handed out. -/
  identified (session : Session ω) :
    view { session with world := (World.freshId session.world).2 } = view session
  /-- It does not show a report that counts no retry. -/
  reported {change : Telemetry → Telemetry} (quiet : Telemetry.CountsNoRetry change)
    (session : Session ω) :
    view { session with telemetry := change session.telemetry } = view session

/-- A view of sessions is detached but for the calls that replace objects of the cluster. -/
structure DetachedButWrites {ω γ : Type} [World ω] (view : Session ω → γ) : Prop where
  /-- It does not show what other calls to the cluster change. -/
  called {α : Type} {call : ClusterCall α} (other : call.replaces = false) (session : Session ω) :
    view { session with world := (World.cluster call session.world).2 } = view session
  /-- It does not show that an identifier was handed out. -/
  identified (session : Session ω) :
    view { session with world := (World.freshId session.world).2 } = view session
  /-- It does not show a report that counts no retry. -/
  reported {change : Telemetry → Telemetry} (quiet : Telemetry.CountsNoRetry change)
    (session : Session ω) :
    view { session with telemetry := change session.telemetry } = view session

theorem Detached.butWrites {ω γ : Type} [World ω] {view : Session ω → γ}
    (detached : Detached view) : DetachedButWrites view where
  called _ := detached.called _
  identified := detached.identified
  reported := detached.reported

section Reported

variable {σ ω α : Type} [InSession σ ω] (s : σ)

@[simp]
theorem answer_report (change : Telemetry → Telemetry) :
    answer (report change : EStateM Failure σ Unit) s = .ok () := by
  rw [report, inSession, answer_within, answer_modify]

/-- A span answers what the work in it answers. -/
theorem answer_inSpan (name kind : String) (attributes : Fields) (act : EStateM Failure σ α) :
    answer (inSpan name kind attributes act) s =
      answer act (final (inTrace (·.openSpan name kind attributes)) s) := by
  simp only [inSpan, inTrace, answer_bind, answer_report, answer_attempt, final_attempt]
  cases answer act _ with
  | ok a => rw [answer_bind, answer_report, answer_pure]
  | error failure => rw [answer_bind, answer_report]; rfl

/-- Around the work in a span, only its opening and its closing are reported. -/
theorem final_inSpan (name kind : String) (attributes : Fields) (act : EStateM Failure σ α) :
    ∃ close : Tracer → Tracer,
      final (inSpan name kind attributes act) s =
        final (inTrace close) (final act (final (inTrace (·.openSpan name kind attributes)) s)) := by
  simp only [inSpan, inTrace, final_bind, answer_report, answer_attempt, final_attempt]
  cases answer act _ with
  | ok a => exact ⟨Tracer.closeSpan, by rw [final_bind, answer_report, final_pure]⟩
  | error failure => exact ⟨(·.failSpan failure), by rw [final_bind, answer_report]; rfl⟩

end Reported

section Reports

variable {σ ω α γ : Type} [InSession σ ω] [LawfulInSession σ] {work : Work ω α}

theorem keeps_inSession {view : Session ω → γ} (kept : Keeps view work) :
    Keeps (fun s : σ => view (InSession.session s)) (inSession work) :=
  keeps_within LawfulInSession.session_withSession kept

omit [LawfulInSession σ] in
/-- A view that does not show the session is kept by work in the session. -/
theorem keeps_inSession_apart {view : σ → γ}
    (apart : ∀ (session : Session ω) (s : σ), view (InSession.withSession session s) = view s) :
    Keeps view (inSession work) :=
  keeps_within_apart apart

section Apart

variable {view : σ → γ} {act : EStateM Failure σ α}

omit [LawfulInSession σ] in
theorem keeps_report_apart
    (apart : ∀ (session : Session ω) (s : σ), view (InSession.withSession session s) = view s)
    (change : Telemetry → Telemetry) : Keeps view (report change) :=
  keeps_inSession_apart apart

omit [LawfulInSession σ] in
theorem keeps_inSpan_apart
    (apart : ∀ (session : Session ω) (s : σ), view (InSession.withSession session s) = view s)
    (name kind : String) (attributes : Fields) (kept : Keeps view act) :
    Keeps view (inSpan name kind attributes act) := by
  have traced (change : Tracer → Tracer) : Keeps view (inTrace change) :=
    keeps_report_apart apart _
  refine keeps_bind (traced _) fun _ => keeps_bind (keeps_attempt kept) fun outcome => ?_
  cases outcome with
  | ok a => exact keeps_bind (traced _) fun _ => keeps_pure a
  | error failure => exact keeps_bind (traced _) fun _ => keeps_throw failure

omit [LawfulInSession σ] in
theorem keeps_inScope_apart
    (apart : ∀ (session : Session ω) (s : σ), view (InSession.withSession session s) = view s)
    (scope : Scope) (kept : Keeps view act) : Keeps view (inScope scope act) := by
  have entered (scope : Option Scope) : Keeps view (setScope scope) :=
    keeps_report_apart apart _
  exact keeps_bind (keeps_inSession_apart apart) fun _ => keeps_bind (entered _) fun _ =>
    keeps_bind (keeps_attempt kept) fun outcome =>
      keeps_bind (entered _) fun _ => keeps_ofExcept outcome

end Apart

variable [World ω] {view : Session ω → γ}

theorem DetachedButWrites.keeps_report (detached : DetachedButWrites view)
    {change : Telemetry → Telemetry} (quiet : Telemetry.CountsNoRetry change) :
    Keeps (fun s : σ => view (InSession.session s)) (report change) :=
  keeps_inSession (keeps_modify fun session => detached.reported quiet session)

theorem DetachedButWrites.keeps_log (detached : DetachedButWrites view) (level : Level)
    (text : String) : Keeps (fun s : σ => view (InSession.session s)) (log level text) :=
  detached.keeps_report (.log level text)

theorem DetachedButWrites.keeps_count (detached : DetachedButWrites view) {metric : Metric}
    (other : metric.isOfRetries = false) :
    Keeps (fun s : σ => view (InSession.session s)) (count metric) :=
  detached.keeps_report (.count other)

end Reports

section Asking

variable {ω α : Type} (call : ω → Except Failure α × ω) (session : Session ω)

theorem answer_ask : answer (Work.ask call) session = (call session.world).1 := by
  unfold answer Work.ask
  rcases call session.world with ⟨_ | _, world⟩ <;> rfl

theorem final_ask :
    final (Work.ask call) session = { session with world := (call session.world).2 } := by
  unfold final Work.ask
  rcases call session.world with ⟨_ | _, world⟩ <;> rfl

end Asking

namespace Cluster

variable {ω α γ : Type} (operation : String) (call : Work ω α) (session : Session ω)

/-- Counting does not show in what a call answers. -/
theorem answer_metered : answer (metered operation call) session = answer call session := by
  unfold metered
  rw [answer_bind, answer_attempt]
  exact answer_ofExcept _ _

/-- Counting does not show in a view that counts keep. -/
theorem view_metered {view : Session ω → γ}
    (counted : ∀ {metric : Metric}, metric.isOfRetries = false →
      Keeps view (count metric : Work ω Unit)) :
    view (final (metered operation call) session) = view (final call session) := by
  unfold metered
  rw [view_final_bind view, final_attempt]
  exact fun outcome => keeps_bind (counted rfl) fun _ => keeps_bind (counted rfl) fun _ =>
    keeps_ofExcept outcome

end Cluster

section Calls

variable {ω α γ : Type} [World ω] {view : Session ω → γ}

theorem keeps_cluster {call : ClusterCall α}
    (same : ∀ session : Session ω,
      view { session with world := (World.cluster call session.world).2 } = view session) :
    Keeps view (Work.cluster call) := by
  intro session
  rw [Work.cluster, final_ask, same]

theorem isOfRetries_of_step {metric : Metric} (step : metric.isOfSteps = true) :
    metric.isOfRetries = false := by
  cases metric <;> first | rfl | contradiction

namespace DetachedButWrites

theorem keeps_emit (detached : DetachedButWrites view) (recorder : Recorder) (doc : Document)
    (reason message type : String) :
    Keeps view (recorder.emit (ω := ω) doc reason message type) := by
  unfold Recorder.emit
  split
  · refine keeps_bind (keeps_attempt (keeps_cluster (detached.called rfl))) fun outcome => ?_
    split
    · exact keeps_pure _
    · exact detached.keeps_log (σ := Session ω) _ _
    · exact keeps_throw _
  · exact keeps_pure _

/-- A part of work keeps a detached view, unless it replaces objects of the cluster or asks beyond it. -/
theorem keeps_part (detached : DetachedButWrites view) {may : Permit} {part : Work ω α}
    (made : Work.Part may α part)
    (replacing : ∀ {β : Type} (call : ClusterCall β), call.replaces = true → may.writes = true →
      Keeps view (Work.cluster call))
    (reaching : may.reaches = true →
      (∀ call : WireCall, (call.sends = true → may.sends = true) → Keeps view (Work.wire call)) ∧
      (∀ {β : Type} (call : ChartCall β), Keeps view (Work.chart call)) ∧
      ∀ (descriptions : Cache Description Number → Cache Description Number)
        (descriptor : Option Descriptor → Option Descriptor),
        Keeps view (modify fun session : Session ω =>
          { session with
            descriptions := descriptions session.descriptions
            descriptor := descriptor session.descriptor } : Work ω Unit)) :
    Keeps view part := by
  cases made with
  | look see => exact keeps_bind keeps_get fun _ => keeps_pure _
  | cluster call quiet allowed =>
      cases replaces : call.replaces with
      | true => exact replacing call replaces (allowed replaces)
      | false => exact keeps_cluster (detached.called replaces)
  | emit recorder doc reason message type => exact detached.keeps_emit recorder doc _ _ _
  | wire allowed call sending => exact (reaching allowed).1 call sending
  | chart allowed call => exact (reaching allowed).2.1 call
  | keep allowed descriptions descriptor => exact (reaching allowed).2.2 descriptions descriptor
  | log level text => exact detached.keeps_log (σ := Session ω) level text
  | logRecord level record additional =>
      exact detached.keeps_report (σ := Session ω) (.logRecord level record additional)
  | count step => exact detached.keeps_count (σ := Session ω) (isOfRetries_of_step step)
  | trace change => exact detached.keeps_report (σ := Session ω) (.trace change)

/-- Work that reads from the cluster keeps a view that is detached but for writes. -/
theorem keeps_made (detached : DetachedButWrites view) {work : Work ω α}
    (made : Work.Made ⟨false, false, false, false⟩ work) : Keeps view work :=
  made.keeps fun _ _ part => detached.keeps_part part (by simp) (by simp)

end DetachedButWrites

/-- Work that only talks to the cluster keeps a view that is detached. -/
theorem Detached.keeps_made (detached : Detached view) {work : Work ω α}
    (made : Work.Made ⟨true, false, false, true⟩ work) : Keeps view work :=
  made.keeps fun _ _ part => detached.butWrites.keeps_part part
    (fun call _ _ => keeps_cluster (detached.called call)) (by simp)

end Calls

end Reconciler
