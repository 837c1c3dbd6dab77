import Reconciler.Proofs.Reconciliation.Parts
import Reconciler.Proofs.Reconciliation.Trail

/-!
# Work on the document at hand

What handlers share edits the document at hand at a few paths and writes it.  Notices, counts and log
lines around an action do not show in the trail of the document.
-/

namespace Reconciler

/-- What others see of a desk: the world outside, and the document at hand. -/
def Desk.outward {ω : Type} (desk : Desk ω) : ω × Document :=
  (desk.session.world, desk.document)

/-- The trail of the document at hand. -/
def Desk.trail {ω : Type} (desk : Desk (Recorded ω)) : Trail :=
  ⟨desk.document.object, desk.session.writes⟩

/-- Work edits the document at hand at several paths, and writes it. -/
abbrev Trails {ω α : Type} (paths : List (List String)) (act : Reconcile (Recorded ω) α) : Prop :=
  Proceeds Desk.trail (Trail.Step paths) act

section Working

variable {ω α : Type} {paths : List (List String)}

theorem keeps_trail {work : Work (Recorded ω) α} (kept : Keeps Session.writes work) :
    Keeps Desk.trail (inSession (σ := Desk (Recorded ω)) work) := by
  intro desk
  rw [inSession, final_within]
  exact congrArg (Trail.mk desk.document.object) (kept desk.session)

theorem trails_edit {change : Edit α} (touches : Document.Touches paths change) :
    Trails paths (Desk.edit (ω := Recorded ω) change) := by
  intro desk
  rw [Desk.edit, final_within]
  exact Trail.run_of_edited (touches desk.document) desk.session.writes

theorem keeps_current : Keeps Desk.trail (Desk.current (ω := Recorded ω)) :=
  fun _ => rfl

theorem answer_current_bind (next : Document → Reconcile ω α) (desk : Desk ω) :
    answer (Desk.current >>= next) desk = answer (next desk.document) desk := rfl

theorem final_current_bind (next : Document → Reconcile ω α) (desk : Desk ω) :
    final (Desk.current >>= next) desk = final (next desk.document) desk := rfl

theorem answer_inSession (work : Work ω α) (desk : Desk ω) :
    answer (inSession work) desk = answer work desk.session :=
  answer_within ..

theorem final_inSession (work : Work ω α) (desk : Desk ω) :
    final (inSession work) desk = ⟨final work desk.session, desk.document⟩ :=
  final_within ..

theorem answer_edit (change : Edit α) (desk : Desk ω) :
    answer (Desk.edit change) desk = answer change desk.document :=
  answer_within ..

theorem final_edit (change : Edit α) (desk : Desk ω) :
    final (Desk.edit change) desk = { desk with document := final change desk.document } :=
  final_within ..

theorem version?_documentOf (stored : Value) :
    Document.version? (Cluster.documentOf stored).object = Document.version? stored := by
  unfold Cluster.documentOf
  split <;> rfl

theorem trail_adoptVersion (updated : Document) (desk : Desk (Recorded ω)) :
    (final (Desk.edit (Document.adoptVersion updated)) desk).trail =
      ⟨Document.stamped desk.document.object (Document.version? updated.object),
        desk.session.writes⟩ := by
  rw [Desk.edit, final_within, ← Document.object_adoptVersion]
  rfl

variable [World ω]

/-- The document at hand is written and the version that is answered taken over, unless its resource is
not found. -/
theorem stored_cases {isWhole : Bool} {store : Document → Work (Recorded ω) Document}
    (stores : ∀ doc, Recorded.Stores isWhole doc (store doc)) (desk : Desk (Recorded ω)) :
    let act : Reconcile (Recorded ω) Unit := do
      let updated ← inSession (store (← Desk.current))
      Desk.edit (Document.adoptVersion updated)
    (∃ failure, answer act desk = .error failure ∧
        answer (Cluster.resourceOfDocument desk.document) desk.session = .error failure ∧
        (final act desk).trail = desk.trail) ∨
      ∃ write : Write, write.isWhole = isWhole ∧ write.body = desk.document.object ∧
        (final act desk).trail =
          ⟨Document.stamped desk.document.object write.version?, desk.session.writes ++ [write]⟩ := by
  dsimp only
  rw [answer_current_bind, final_current_bind, answer_bind, final_bind, answer_inSession,
    final_inSession]
  rcases stores desk.document desk.session with ⟨⟨failure, failed, unplaced⟩, kept⟩ |
    ⟨write, whole, body, answered, wrote⟩
  · rw [failed]
    exact .inl ⟨failure, rfl, unplaced, congrArg (Trail.mk desk.document.object) kept⟩
  -- Only an answer that is a tree can bring another version.
  · refine .inr ⟨write, whole, body, ?_⟩
    rw [answered]
    cases stored : write.answer with
    | error failure =>
        rw [Write.version?, stored]
        exact congrArg (Trail.mk desk.document.object) wrote
    | ok object =>
        have version : write.version? = Document.version? object := by rw [Write.version?, stored]
        change (final (Desk.edit _) _).trail = _
        rw [trail_adoptVersion, version?_documentOf, wrote, version]

/-- Writing the document at hand and taking over the version that is answered is one step. -/
theorem trails_stored {isWhole : Bool} {store : Document → Work (Recorded ω) Document}
    (stores : ∀ doc, Recorded.Stores isWhole doc (store doc)) :
    Trails paths (do
      let updated ← inSession (store (← Desk.current))
      Desk.edit (Document.adoptVersion updated) : Reconcile (Recorded ω) Unit) := by
  intro desk
  rcases stored_cases stores desk with ⟨failure, -, -, kept⟩ | ⟨write, -, body, left⟩
  · rw [kept]
  · rw [left]
    exact .single (.wrote body desk.session.writes)

theorem trails_stored_then {isWhole : Bool} {store : Document → Work (Recorded ω) Document}
    (stores : ∀ doc, Recorded.Stores isWhole doc (store doc)) {next : Reconcile (Recorded ω) α}
    (trails : Trails paths next) :
    Trails paths (do
      let updated ← inSession (store (← Desk.current))
      Desk.edit (Document.adoptVersion updated)
      next) := by
  have parts := proceeds_bind (trails_stored stores) fun _ => trails
  simpa only [bind_assoc] using parts

/-- Work that neither writes nor edits the document at hand keeps its trail. -/
theorem keeps_done {act : Reconcile (Recorded ω) α}
    (done : Reconcile.Done ⟨false, true, true, false⟩ act) : Keeps Desk.trail act := by
  refine done.keeps fun _ _ part => ?_
  cases part with
  | inSession made => exact keeps_trail (Recorded.keeps_made made)
  | current => exact keeps_current
  | edit allowed => contradiction

/-- Work that does not edit the document at hand keeps it. -/
theorem keeps_document {may : Permit} {act : Reconcile ω α} (done : Reconcile.Done may act)
    (still : may.edits = false) : Keeps Desk.document act := by
  refine done.keeps fun _ _ part => ?_
  cases part with
  | inSession made => exact keeps_inSession_apart fun _ _ => rfl
  | current => exact fun _ => rfl
  | edit allowed =>
      rw [still] at allowed
      contradiction

theorem trails_persist : Trails paths (Handling.persist (ω := Recorded ω)) :=
  trails_stored Recorded.stores_update

/-- Writing the document at hand replaces the whole object once, or fails before it does. -/
theorem writes_persist (desk : Desk (Recorded ω)) :
    ∃ made, (final Handling.persist desk).session.writes = desk.session.writes ++ made ∧
      (made = [] → ∃ failure, answer Handling.persist desk = .error failure) ∧
      ∀ write ∈ made, write.isWhole = true ∧ write.body = desk.document.object := by
  unfold Handling.persist
  rw [final_current_bind, answer_current_bind, final_bind, answer_bind, answer_inSession,
    final_inSession]
  rcases Recorded.stores_update desk.document desk.session with ⟨⟨failure, failed, -⟩, kept⟩ |
    ⟨write, whole, body, answered, wrote⟩
  · rw [failed]
    exact ⟨[], by simpa using kept, fun _ => ⟨failure, rfl⟩, by simp⟩
  · refine ⟨[write], ?_, by simp, by simp [whole, body]⟩
    cases answer (Cluster.update desk.document) desk.session with
    | error failure => exact wrote
    | ok updated =>
        change (final (Desk.edit _) _).trail.writes = _
        rw [trail_adoptVersion]
        exact wrote

theorem trails_persistStatus (before : Option Value) :
    Trails paths (Handling.persistStatus (ω := Recorded ω) before) := by
  have judged (isKept : Bool) : Trails paths (if isKept then pure false else do
      let updated ← inSession (Cluster.updateStatus (← Desk.current))
      Desk.edit (Document.adoptVersion updated)
      pure true : Reconcile (Recorded ω) Bool) := by
    split
    · exact (keeps_pure _).proceeds
    · exact trails_stored_then Recorded.stores_updateStatus (keeps_pure _).proceeds
  cases before with
  | none => exact proceeds_bind (keeps_pure false).proceeds judged
  | some status =>
      refine proceeds_bind keeps_current.proceeds fun doc => ?_
      refine proceeds_bind (keeps_ofExcept _).proceeds fun current => ?_
      exact proceeds_bind (keeps_pure _).proceeds judged

theorem trails_setReady (own : Document.conditionsPath ∈ paths) (readiness : Readiness) :
    Trails paths (Handling.setReady (ω := Recorded ω) readiness) := by
  have clock : Keeps Session.writes (Work.wallClock (ω := Recorded ω)) := fun _ => rfl
  refine proceeds_bind (keeps_trail clock).proceeds fun now => ?_
  exact trails_edit (Document.touches_setCondition own _ now)

theorem trails_setAvailable (conditions : Document.conditionsPath ∈ paths)
    (failedRef : Document.failedRefPath ∈ paths) :
    Trails paths (Handling.setAvailable (ω := Recorded ω)) :=
  proceeds_bind (trails_setReady conditions _) fun _ =>
    trails_edit (Document.touches_removeField failedRef)

theorem trails_releaseDocument (own : Document.finalizersPath ∈ paths) :
    Trails paths (Handling.releaseDocument (ω := Recorded ω)) := by
  refine proceeds_bind (trails_edit (Document.touches_removeFinalizer own)) fun changed => ?_
  split
  · exact trails_persist
  · exact (keeps_pure _).proceeds

theorem trails_adopt (own : Document.ownersPath ∈ paths) (rules : List OwnerRule) :
    Trails paths (Ownership.adopt (ω := Recorded ω) rules) := by
  refine proceeds_bind keeps_current.proceeds fun doc => ?_
  refine proceeds_bind (keeps_ofExcept _).proceeds fun references => ?_
  refine proceeds_bind (keeps_ofExcept _).proceeds fun spec => ?_
  have gathered := keeps_done (ω := ω)
    (done_inSession (Ownership.made_extended doc spec references rules))
  refine proceeds_bind gathered.proceeds fun all => ?_
  split
  · exact (keeps_pure _).proceeds
  · refine proceeds_bind (trails_edit (Document.touches_setField own _)) fun _ => ?_
    exact trails_stored_then Recorded.stores_update (keeps_pure _).proceeds

end Working

/-! ## Actions -/

namespace Handling

section Measuring

variable {ω α : Type} [World ω]

/-- What stands before an action: it is announced unless it only looks, and counted.  The answer is the
kind by which it is counted. -/
def announce (handling : Handling) (action : String) : Reconcile ω String := do
  let doc ← Desk.current
  let kind := handling.kindOf doc
  if action != "observe" then inSession (handling.recorder.started doc action)
  count (.reconciliations kind action .started)
  pure kind

/-- What stands behind an action: how it ended is counted, and a failure logged. -/
def conclude (handling : Handling) (kind action : String) (outcome : Except Failure α) :
    Reconcile ω Unit := do
  match outcome with
  | .ok _ => count (.reconciliations kind action .success)
  | .error failure =>
    count (.errors kind failure.kind)
    count (.reconciliations kind action .error)
    handling.logDebug (action ++ " failed") (failureFields failure)
  count (.reconciliationTimes kind action)

theorem measured_eq (handling : Handling) (action : String) (act : Reconcile ω α) :
    handling.measured action act = (do
      let kind ← handling.announce action
      let outcome ← attempt act
      handling.conclude kind action outcome
      ofExcept outcome) := by
  unfold measured announce
  split
  · simp only [bind_assoc, pure_bind]
    refine bind_congr fun doc => bind_congr fun _ => bind_congr fun _ => bind_congr fun outcome => ?_
    cases outcome <;> simp only [conclude, bind_assoc]
  · simp only [bind_assoc, pure_bind]
    refine bind_congr fun doc => bind_congr fun _ => bind_congr fun outcome => ?_
    cases outcome <;> simp only [conclude, bind_assoc]

theorem done_announce {may : Permit} (handling : Handling) (action : String) :
    Reconcile.Done may (handling.announce (ω := ω) action) :=
  done_current fun doc => .when (done_inSession (.part (.emit _ doc _ _ _))) fun _ =>
    .bind (done_count rfl) fun _ => .pure _

theorem done_conclude {may : Permit} (handling : Handling) (kind action : String)
    (outcome : Except Failure α) :
    Reconcile.Done may (handling.conclude (ω := ω) kind action outcome) := by
  cases outcome with
  | ok a => exact .bind (done_count rfl) fun _ => done_count rfl
  | error failure =>
      refine .bind (done_count rfl) fun _ => .bind (done_count rfl) fun _ => ?_
      exact .bind (done_logStep _ _ _ _ _ _) fun _ => done_count rfl

theorem keeps_announce (handling : Handling) (action : String) :
    Keeps Desk.trail (handling.announce (ω := Recorded ω) action) :=
  keeps_done (handling.done_announce action)

/-- The trail of an action that is announced and counted is that of the action. -/
theorem run_measured {paths : List (List String)} (handling : Handling) (action : String)
    {act : Reconcile (Recorded ω) α} {desk : Desk (Recorded ω)}
    (run : Trail.Run paths (final (handling.announce action) desk).trail
      (final act (final (handling.announce action) desk)).trail) :
    Trail.Run paths desk.trail (final (handling.measured action act) desk).trail := by
  rw [measured_eq]
  refine proceeds_bind_at ((handling.keeps_announce action).proceeds desk) fun kind _ => ?_
  refine proceeds_bind_at ?_ fun outcome _ => ?_
  · rw [final_attempt]
    exact run
  · exact proceeds_bind (keeps_done (handling.done_conclude kind action outcome)).proceeds
      (fun _ => (keeps_ofExcept outcome).proceeds) _

omit [World ω] in
theorem answer_conclude (handling : Handling) (kind action : String) (outcome : Except Failure α)
    (desk : Desk ω) : answer (handling.conclude kind action outcome) desk = .ok () := by
  cases outcome <;> rfl

omit [World ω] in
/-- What stands behind an action is only reported. -/
theorem outward_conclude (handling : Handling) (kind action : String) (outcome : Except Failure α)
    (desk : Desk ω) : (final (handling.conclude kind action outcome) desk).outward = desk.outward := by
  cases outcome <;> rfl

section Announced

variable (handling : Handling) {action kind : String} (act : Reconcile ω α) {desk : Desk ω}
  (announced : answer (handling.announce action) desk = .ok kind)
include announced

/-- An action that is announced and counted answers as it does alone. -/
theorem answer_measured :
    answer (handling.measured action act) desk =
      answer act (final (handling.announce action) desk) := by
  rw [measured_eq, answer_bind_ok announced, answer_bind_ok (answer_attempt ..),
    answer_bind_ok (answer_conclude ..), answer_ofExcept]

/-- An action that is announced and counted leaves behind what it does alone. -/
theorem outward_measured :
    (final (handling.measured action act) desk).outward =
      (final act (final (handling.announce action) desk)).outward := by
  rw [measured_eq, final_bind_ok announced, final_bind_ok (answer_attempt ..),
    final_bind_ok (answer_conclude ..), final_ofExcept, outward_conclude, final_attempt]

end Announced

/-- An action that is announced and counted leaves the trail behind that it leaves alone. -/
theorem trail_measured (handling : Handling) {action kind : String} {desk : Desk (Recorded ω)}
    (act : Reconcile (Recorded ω) α)
    (announced : answer (handling.announce action) desk = .ok kind) :
    (final (handling.measured action act) desk).trail =
      (final act (final (handling.announce action) desk)).trail := by
  have same := handling.outward_measured act announced
  exact congrArg (fun seen => Trail.mk seen.2.object seen.1.writes) same

end Measuring

/-! ## Letting a document go -/

section Removing

variable {ω : Type} [World ω]

/-- Removes the external resource and lets the document at hand go.  Failures of the operator's own kinds
and of the cluster do not hold the document back. -/
def removing (handling : Handling) (removal : Reconcile ω Unit) (message : String) :
    Reconcile ω Unit := do
  match ← attempt removal with
  | .ok () => pure ()
  | .error failure =>
    if failure.isOperator || failure.isCluster then handling.logRelease message failure
    else throw failure
  releaseDocument

theorem trails_removing {paths : List (List String)} (handling : Handling)
    {removal : Reconcile (Recorded ω) Unit} {message : String} (trails : Trails paths removal)
    (own : Document.finalizersPath ∈ paths) :
    Trails paths (handling.removing removal message) := by
  refine proceeds_bind (proceeds_attempt trails) fun outcome => ?_
  cases outcome with
  | ok _ => exact trails_releaseDocument own
  | error failure =>
      dsimp only
      split
      · refine proceeds_bind (keeps_done (done_logStep _ _ _ _ _ _)).proceeds fun _ => ?_
        exact trails_releaseDocument own
      · exact proceeds_bind (keeps_throw _).proceeds fun _ => trails_releaseDocument own

end Removing

end Handling

end Reconciler
