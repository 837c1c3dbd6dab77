import Reconciler.Proofs.Document.Status
import Reconciler.Proofs.Failure.Verdicts
import Reconciler.Proofs.Reconciliation.Actions

/-!
# What the cluster was shown

The observed state of the document at hand is shown to the cluster when it is written there.  A write is
left out when the observed state has not changed since it was shown last, so that what was shown stays
equal to what is at hand; only a resource that cannot be found in the cluster comes between them.
-/

namespace Reconciler

/-! ## Differences that are counted -/

section Counting

variable {ω α : Type}

/-- How often a difference was counted for a kind. -/
def Session.drifts (kind : String) (session : Session ω) : Nat :=
  session.telemetry.counts.count (.drifts kind)

/-- How often a difference was counted for a kind. -/
def Desk.drifts (kind : String) (desk : Desk ω) : Nat :=
  desk.session.drifts kind

theorem keeps_drifts_report {change : Telemetry → Telemetry}
    (same : ∀ telemetry, (change telemetry).counts = telemetry.counts) (kind : String) :
    Keeps (Session.drifts kind) (report (σ := Session ω) change) := by
  intro session
  change (change session.telemetry).counts.count (.drifts kind) = _
  rw [same]
  rfl

theorem counts_log (level : Level) (text : String) (telemetry : Telemetry) :
    (telemetry.log level text).counts = telemetry.counts := by
  unfold Telemetry.log
  split <;> rfl

theorem keeps_drifts_count {metric : Metric} (other : metric.isOfDrifts = false) (kind : String) :
    Keeps (Session.drifts kind) (count (σ := Session ω) metric) := by
  intro session
  have apart : Metric.drifts kind ≠ metric := by
    rintro rfl
    contradiction
  change (session.telemetry.count metric).counts.count (.drifts kind) = _
  rw [Telemetry.counts_count, if_neg apart]
  rfl

theorem keeps_drifts_ask (call : ω → Except Failure α × ω) (kind : String) :
    Keeps (Session.drifts kind) (Work.ask call) := by
  intro session
  rw [final_ask]
  rfl

variable [World ω] {may : Permit}

/-- Work that is put together from parts counts no difference. -/
theorem keeps_drifts_made {work : Work ω α} (made : Work.Made may work) (kind : String) :
    Keeps (Session.drifts kind) work := by
  refine made.keeps fun _ _ part => ?_
  cases part with
  | look see => exact fun _ => rfl
  | cluster call _ _ => exact keeps_drifts_ask _ kind
  | emit recorder doc reason message type =>
      unfold Recorder.emit
      split
      · refine keeps_bind (keeps_attempt (keeps_drifts_ask _ kind)) fun outcome => ?_
        split
        · exact keeps_pure _
        · exact keeps_drifts_report (counts_log _ _) kind
        · exact keeps_throw _
      · exact keeps_pure _
  | wire _ call => exact keeps_drifts_ask _ kind
  | chart _ call => exact keeps_drifts_ask _ kind
  | keep _ _ _ => exact fun _ => rfl
  | log level text => exact keeps_drifts_report (counts_log level text) kind
  | logRecord level record additional =>
      exact keeps_drifts_report (fun telemetry => counts_log level _ telemetry) kind
  | @count metric step =>
      exact keeps_drifts_count (by cases metric <;> first | rfl | contradiction) kind
  | trace change => exact keeps_drifts_report (fun _ => rfl) kind

theorem keeps_drifts_done {act : Reconcile ω α} (done : Reconcile.Done may act) (kind : String) :
    Keeps (Desk.drifts kind) act := by
  refine done.keeps fun _ _ part => ?_
  cases part with
  | inSession made =>
      exact keeps_within (fun _ _ => rfl) (keeps_drifts_made made kind)
  | current => exact fun _ => rfl
  | edit _ change =>
      intro desk
      rw [final_edit]
      rfl

end Counting

/-! ## Verdicts -/

/-- A computation passes no verdict. -/
def Fair {σ α : Type} (act : EStateM Failure σ α) : Prop :=
  ∀ s, Impartial (answer act s)

/-- The cluster passes no verdict on external resources. -/
def ClusterFair (ω : Type) [World ω] : Prop :=
  ∀ {α : Type} (call : ClusterCall α) (world : ω), Impartial (World.cluster call world).1

theorem ClusterFair.recorded {ω : Type} [World ω] (fair : ClusterFair ω) :
    ClusterFair (Recorded ω) :=
  fun call recorded => fair call recorded.world

section Fairness

variable {σ ω α β : Type}

theorem fair_ofExcept {outcome : Except Failure α} (impartial : Impartial outcome) :
    Fair (ofExcept outcome : EStateM Failure σ α) := by
  intro s
  rw [answer_ofExcept]
  exact impartial

theorem fair_pure (a : α) : Fair (pure a : EStateM Failure σ α) :=
  fun _ => impartial_ok a

theorem fair_bind {act : EStateM Failure σ α} {next : α → EStateM Failure σ β} (first : Fair act)
    (rest : ∀ a, Fair (next a)) : Fair (act >>= next) := by
  intro s
  rw [answer_bind]
  cases answered : answer act s with
  | ok a => exact rest a _
  | error failure => exact impartial_error (first s failure answered)

theorem fair_inSession {work : Work ω α} (fair : Fair work) :
    Fair (inSession work : Reconcile ω α) := by
  intro desk
  rw [answer_inSession]
  exact fair _

theorem fair_current {next : Document → Reconcile ω α} (rest : ∀ doc, Fair (next doc)) :
    Fair (Desk.current >>= next) :=
  fun desk => rest desk.document desk

theorem fair_edit {change : Edit α} (fair : Fair change) :
    Fair (Desk.edit change : Reconcile ω α) := by
  intro desk
  rw [answer_edit]
  exact fair _

theorem fair_setField (path : List String) (value : Value) :
    Fair (Document.setField path value) :=
  fair_bind (fun doc => impartial_ok doc) fun doc =>
    fair_bind (fair_ofExcept (doc.impartial_withField path value)) fun _ _ => impartial_ok _

theorem fair_writeIdentifiers (identifiers : List String) (body : Value) :
    Fair (Document.writeIdentifiers identifiers body) := by
  rw [Document.writeIdentifiers_eq]
  induction identifiers with
  | nil => exact fair_pure _
  | cons name rest ih =>
      refine fair_bind ?_ fun _ => ih
      unfold Document.noteIdentifier Document.statedText?
      split
      · exact fair_pure _
      next stated states =>
        refine fair_bind (fair_ofExcept ?_) fun text => fair_setField _ _
        split at states
        · contradiction
        · contradiction
        next value _ _ =>
          rw [← Option.some.inj states]
          exact value.impartial_parameter

theorem fair_adoptVersion (updated : Document) : Fair (Document.adoptVersion updated) := by
  refine fair_bind (fair_ofExcept (updated.impartial_metadataMember _)) fun value => ?_
  split
  · split
    · exact fair_pure _
    · exact fair_setField _ _
  · exact fair_pure _

variable [World ω] (fair : ClusterFair ω)
include fair

theorem fair_cluster (call : ClusterCall α) : Fair (Work.cluster (ω := ω) call) := by
  intro session
  rw [Work.cluster, answer_ask]
  exact fair call _

theorem fair_updateStatus (doc : Document) : Fair (Cluster.updateStatus (ω := ω) doc) := by
  have metered {γ : Type} (operation : String) (call : ClusterCall γ) :
      Fair (Cluster.metered operation (Work.cluster (ω := ω) call)) := by
    intro session
    rw [Cluster.answer_metered]
    exact fair_cluster fair call session
  have discovers : Fair (Cluster.requireDiscovery (ω := ω) .discovery) := by
    refine fair_bind (fun session => impartial_ok session) fun session => ?_
    split
    · exact fair_pure _
    · exact fun _ => impartial_error rfl
  refine fair_bind (fair_bind (fair_ofExcept doc.impartial_groupVersionKind) fun kind => ?_)
    fun resource => fair_bind (metered _ _) fun _ => fair_pure _
  exact fair_bind discovers fun _ => fair_bind (metered _ _) fun _ => fair_pure _

theorem fair_persistStatus (before : Fields) :
    Fair (Handling.persistStatus (ω := ω) (some (.map before))) := by
  refine fair_current fun doc => fair_bind (fair_ofExcept (doc.impartial_topLevelFields _)) fun now => ?_
  refine fair_bind (fair_pure _) fun isKept => ?_
  dsimp only
  split
  · exact fair_pure _
  · refine fair_current fun doc => fair_bind (fair_inSession (fair_updateStatus fair doc)) ?_
    exact fun updated => fair_bind (fair_edit (fair_adoptVersion updated)) fun _ => fair_pure _

theorem fair_emit (recorder : Recorder) (doc : Document) (reason message type : String) :
    Fair (recorder.emit (ω := ω) doc reason message type) := by
  unfold Recorder.emit
  split
  · intro session
    rw [answer_bind_ok (answer_attempt _ session)]
    cases posted : answer (Work.cluster (.post (recorder.notice doc reason message type))) session with
    | ok _ => exact impartial_ok _
    | error failure =>
        have plain := fair_cluster fair _ session failure posted
        cases failure <;> first | exact impartial_ok _ | exact impartial_error plain
  · exact fair_pure _

end Fairness

/-! ## Writes of the observed state -/

/-- The entries of the observed state at hand. -/
def Trail.statusFields (trail : Trail) : Except Failure Fields :=
  (Document.ofObject trail.object).statusFields

theorem statusFields_trail {ω : Type} (desk : Desk (Recorded ω)) :
    desk.trail.statusFields = desk.document.statusFields := rfl

/-- The writes of observed states. -/
def Trail.statusWrites (trail : Trail) : List Write :=
  trail.writes.filter fun write => !write.isWhole

/-- An observed state is the one that was written last since the start, or the one at the start when none
was written. -/
def Trail.Shows (start trail : Trail) (status : Fields) : Prop :=
  ∃ made, trail.statusWrites = start.statusWrites ++ made ∧
    (Document.ofObject ((made.getLast?.map Write.body).getD start.object)).statusFields = .ok status

namespace Trail

variable {start trail : Trail} {status : Fields}

/-- Since the start no observed state was written, and the one at hand is the same. -/
structure Precedes (start trail : Trail) : Prop where
  /-- No observed state was written. -/
  writes : trail.statusWrites = start.statusWrites
  /-- The observed state at hand is the same. -/
  status : trail.statusFields = start.statusFields

theorem Precedes.shows (fresh : start.Precedes trail) (stated : trail.statusFields = .ok status) :
    start.Shows trail status :=
  ⟨[], by simp [fresh.writes], fresh.status.symm.trans stated⟩

/-- What was shown depends on the writes alone. -/
theorem Shows.of_writes_eq {other : Trail} (shows : start.Shows trail status)
    (same : other.statusWrites = trail.statusWrites) : start.Shows other status := by
  obtain ⟨made, grown, stated⟩ := shows
  exact ⟨made, same.trans grown, stated⟩

/-- The observed state that is written is shown. -/
theorem Shows.wrote {shown : Fields} (shows : start.Shows trail shown) {write : Write}
    (partly : write.isWhole = false)
    (stated : (Document.ofObject write.body).statusFields = .ok status) (object : Value) :
    start.Shows ⟨object, trail.writes ++ [write]⟩ status := by
  obtain ⟨made, grown, -⟩ := shows
  refine ⟨made ++ [write], ?_, by simpa using stated⟩
  unfold statusWrites at grown ⊢
  rw [List.filter_append, grown, List.append_assoc]
  simp [partly]

end Trail

/-- The writes of observed states. -/
def Desk.statusWrites {ω : Type} (desk : Desk (Recorded ω)) : List Write :=
  desk.trail.statusWrites

section WholeWrites

variable {ω α : Type}

theorem keeps_statusWrites {act : Reconcile (Recorded ω) α} (kept : Keeps Desk.trail act) :
    Keeps Desk.statusWrites act :=
  fun desk => congrArg Trail.statusWrites (kept desk)

theorem keeps_statusWrites_edit (change : Edit α) :
    Keeps Desk.statusWrites (Desk.edit (ω := Recorded ω) change) := by
  intro desk
  rw [final_edit]
  rfl

variable [World ω]

/-- Writing the whole document writes no observed state. -/
theorem keeps_statusWrites_stored {store : Document → Work (Recorded ω) Document}
    (stores : ∀ doc, Recorded.Stores true doc (store doc)) :
    Keeps Desk.statusWrites (do
      let updated ← inSession (store (← Desk.current))
      Desk.edit (Document.adoptVersion updated) : Reconcile (Recorded ω) Unit) := by
  intro desk
  rcases stored_cases stores desk with ⟨failure, -, -, kept⟩ | ⟨write, whole, -, left⟩
  · exact congrArg Trail.statusWrites kept
  · rw [Desk.statusWrites, left, Trail.statusWrites, List.filter_append]
    simp [whole, Desk.statusWrites, Trail.statusWrites, Desk.trail]

theorem keeps_statusWrites_adopt (rules : List OwnerRule) :
    Keeps Desk.statusWrites (Ownership.adopt (ω := Recorded ω) rules) := by
  refine keeps_bind (keeps_statusWrites keeps_current) fun doc => ?_
  refine keeps_bind (keeps_ofExcept _) fun references => keeps_bind (keeps_ofExcept _) fun spec => ?_
  refine keeps_bind (keeps_statusWrites (keeps_done
    (done_inSession (Ownership.made_extended doc spec references rules)))) fun all => ?_
  split
  · exact keeps_pure _
  · refine keeps_bind (keeps_statusWrites_edit _) fun _ => ?_
    have stored := keeps_statusWrites_stored (ω := ω) Recorded.stores_update
    simpa only [bind_assoc] using keeps_bind stored fun _ => keeps_pure true

end WholeWrites

/-- The observed state at hand equals the one that was shown. -/
def Trail.Synced (start trail : Trail) : Prop :=
  ∃ now shown, trail.statusFields = .ok now ∧ start.Shows trail shown ∧
    (now = shown ∨ (Value.map now).unchanged (.map shown) = true)

theorem Trail.Precedes.synced {start trail : Trail} {status : Fields} (fresh : start.Precedes trail)
    (stated : trail.statusFields = .ok status) : start.Synced trail :=
  ⟨status, status, stated, fresh.shows stated, .inl rfl⟩

/-- The resource of the tree at hand is not found in the cluster, which fails in some way. -/
def Trail.Unplaced (ω : Type) [World ω] (trail : Trail) (failure : Failure) : Prop :=
  ∃ session : Session (Recorded ω),
    answer (Cluster.resourceOfDocument (.ofObject trail.object)) session = .error failure

theorem statusFields_stamped (object : Value) (version : Option String) :
    (Document.ofObject (Document.stamped object version)).statusFields =
      (Document.ofObject object).statusFields := by
  have edited : Value.Edited [Document.versionPath] object (Document.stamped object version) :=
    Trail.edited_stamped version object
  exact Document.topLevelFields_congr (edited.follow_eq (by decide))

section Restating

variable {ω : Type} {desk : Desk (Recorded ω)} {status : Fields}

/-- An edit of the observed state at hand. -/
theorem restated_edit {change : Edit Unit} {restate : Fields → Fields}
    (restates : Document.Restates change restate) (stated : desk.trail.statusFields = .ok status) :
    answer (Desk.edit change) desk = .ok () ∧
      (final (Desk.edit change) desk).trail.statusFields = .ok (restate status) ∧
      (final (Desk.edit change) desk).session = desk.session := by
  rw [answer_edit, final_edit]
  obtain ⟨answered, left⟩ := restates desk.document status stated
  exact ⟨answered, left, rfl⟩

variable [World ω]

/-- The document at hand tells its readiness, as of now. -/
theorem restated_setReady (readiness : Readiness) (stated : desk.trail.statusFields = .ok status) :
    let act := Handling.setReady (ω := Recorded ω) readiness
    answer act desk = .ok () ∧
      (∃ now, (final act desk).trail.statusFields =
        .ok (Document.withCondition readiness.update now status)) ∧
      (final act desk).session = desk.session := by
  let now := World.wallClock desk.session.world
  obtain ⟨answered, left, kept⟩ :=
    restated_edit (Document.restates_setCondition readiness.update now) stated
  exact ⟨answered, ⟨now, left⟩, kept⟩

/-- The document at hand tells that it is available and waits for nothing, as of now. -/
theorem restated_setAvailable (stated : desk.trail.statusFields = .ok status) :
    let act := Handling.setAvailable (ω := Recorded ω)
    answer act desk = .ok () ∧
      (∃ now, (final act desk).trail.statusFields = .ok (Document.madeAvailable now status)) ∧
      (final act desk).session = desk.session := by
  dsimp only
  obtain ⟨answered, ⟨now, stated⟩, kept⟩ := restated_setReady .available stated
  obtain ⟨removed, left, same⟩ :=
    restated_edit (Document.restates_removeField "failedObjectRef") stated
  unfold Handling.setAvailable
  rw [answer_bind_ok answered, final_bind_ok answered]
  exact ⟨removed, ⟨now, left⟩, same.trans kept⟩

/-- Tells on the document at hand for which object it waits, if for any. -/
def Handling.tell {ω : Type} [World ω] (found : Option (ObjectRef × Failure)) : Reconcile ω Unit :=
  match found with
  | some (ref, failure) => do
    Desk.edit (Document.setFailedRef ref)
    Handling.setReady (Document.awaiting failure)
  | none => Handling.setAvailable

theorem restated_tell (found : Option (ObjectRef × Failure))
    (stated : desk.trail.statusFields = .ok status) :
    let act := Handling.tell (ω := Recorded ω) found
    answer act desk = .ok () ∧
      (∃ now, (final act desk).trail.statusFields = .ok (Document.telling found now status)) ∧
      (final act desk).session = desk.session := by
  cases found with
  | none => exact restated_setAvailable stated
  | some entry =>
      obtain ⟨written, left, same⟩ := restated_edit
        (Document.restates_setField "failedObjectRef" entry.1.toValue) stated
      obtain ⟨answered, now, kept⟩ := restated_setReady (Document.awaiting entry.2) left
      dsimp only [Handling.tell, Document.setFailedRef]
      rw [answer_bind_ok written, final_bind_ok written]
      exact ⟨answered, now, kept.trans same⟩

end Restating

section Showing

variable {ω : Type} [World ω] {desk : Desk (Recorded ω)} {now : Fields}

/-- An observed state that is the same as before is not written. -/
theorem persistStatus_kept {before : Fields} (stated : desk.document.statusFields = .ok now)
    (kept : (Value.map now).unchanged (.map before) = true) :
    let act := Handling.persistStatus (ω := Recorded ω) (some (.map before))
    answer act desk = .ok false ∧ final act desk = desk := by
  have told : answer (ofExcept desk.document.statusFields : Reconcile (Recorded ω) Fields) desk =
      .ok now := (answer_ofExcept _ desk).trans stated
  unfold Handling.persistStatus
  dsimp only
  rw [answer_current_bind, final_current_bind, answer_bind_ok told, final_bind_ok told,
    final_ofExcept, pure_bind, kept]
  exact ⟨rfl, rfl⟩

/-- Writing the observed state unless it has not changed: it is left out, or fails since the resource is
not found, or is made. -/
theorem persistStatus_cases (stated : desk.document.statusFields = .ok now) (before : Fields) :
    let act := Handling.persistStatus (ω := Recorded ω) (some (.map before))
    ((Value.map now).unchanged (.map before) = true ∧ answer act desk = .ok false ∧
        final act desk = desk) ∨
      (∃ failure, answer act desk = .error failure ∧
        answer (Cluster.resourceOfDocument desk.document) desk.session = .error failure ∧
        (final act desk).trail = desk.trail) ∨
      ∃ write : Write, write.isWhole = false ∧ write.body = desk.document.object ∧
        (final act desk).trail =
          ⟨Document.stamped desk.document.object write.version?, desk.session.writes ++ [write]⟩ := by
  dsimp only
  cases kept : (Value.map now).unchanged (.map before) with
  | true => exact .inl ⟨rfl, persistStatus_kept stated kept⟩
  | false =>
      right
      have told : answer (ofExcept desk.document.statusFields : Reconcile (Recorded ω) Fields) desk =
          .ok now := (answer_ofExcept _ desk).trans stated
      have stored := stored_cases (ω := ω) Recorded.stores_updateStatus desk
      have tail (act : Reconcile (Recorded ω) Unit) :
          final (act >>= fun _ => pure true) desk = final act desk := final_bind_pure act _ desk
      unfold Handling.persistStatus
      dsimp only
      rw [answer_current_bind, final_current_bind, answer_bind_ok told, final_bind_ok told,
        final_ofExcept, pure_bind, kept]
      simp only [Bool.false_eq_true, if_false]
      simp only [← bind_assoc] at stored ⊢
      rcases stored with ⟨failure, failed, unplaced, left⟩ | ⟨write, partly, body, left⟩
      · exact .inl ⟨failure, by rw [answer_bind, failed], unplaced, by rw [tail]; exact left⟩
      · exact .inr ⟨write, partly, body, by rw [tail]; exact left⟩

/-- Writing the observed state leaves it as it is. -/
theorem statusFields_persistStatus (stated : desk.trail.statusFields = .ok now) (before : Fields) :
    (final (Handling.persistStatus (ω := Recorded ω) (some (.map before))) desk).trail.statusFields =
      .ok now := by
  rcases persistStatus_cases stated before with ⟨-, -, left⟩ | ⟨_, -, -, left⟩ | ⟨_, -, -, left⟩
  · rw [left]
    exact stated
  · rw [left]
    exact stated
  · rw [left]
    exact (statusFields_stamped _ _).trans stated

/-- After the observed state was written unless it had not changed since it was shown, it is shown. -/
theorem synced_persistStatus {start : Trail} {before : Fields}
    (stated : desk.trail.statusFields = .ok now) (shows : start.Shows desk.trail before) :
    let act := Handling.persistStatus (ω := Recorded ω) (some (.map before))
    (final act desk).trail.statusFields = .ok now ∧
      ((Value.map now).unchanged (.map before) = true ∧ answer act desk = .ok false ∧
          final act desk = desk ∨
        start.Shows (final act desk).trail now ∨
        ∃ failure, answer act desk = .error failure ∧ (final act desk).trail.Unplaced ω failure) := by
  dsimp only
  refine ⟨statusFields_persistStatus stated before, ?_⟩
  rcases persistStatus_cases stated before with kept | ⟨failure, failed, unplaced, left⟩ |
    ⟨write, partly, body, left⟩
  · exact .inl kept
  · exact .inr (.inr ⟨failure, failed, desk.session, by rw [left]; exact unplaced⟩)
  · rw [left]
    refine .inr (.inl (shows.wrote partly ?_ _))
    rw [body]
    exact stated

/-- What the observed state tells already is told and written again without an effect. -/
theorem tell_settled {found : Option (ObjectRef × Failure)}
    (stated : desk.trail.statusFields = .ok now) (proper : (Value.map now).Proper)
    (settled : Document.Settled found now) :
    let act : Reconcile (Recorded ω) Bool := do
      Handling.tell found
      Handling.persistStatus (some (.map now))
    answer act desk = .ok false ∧ (final act desk).trail.statusFields = .ok now ∧
      (final act desk).session = desk.session := by
  obtain ⟨answered, ⟨time, left⟩, same⟩ := restated_tell found stated
  rw [Document.telling_of_settled settled] at left
  obtain ⟨kept, unedited⟩ := persistStatus_kept left proper.unchanged
  dsimp only
  rw [answer_bind_ok answered, final_bind_ok answered, unedited]
  exact ⟨kept, left, same⟩

end Showing

end Reconciler
