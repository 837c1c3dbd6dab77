import Reconciler.Proofs.Reconciliation.Shown
import Reconciler.Proofs.Session.Lookups

/-!
# What an inspection of a release finds

An observation of a release renders its manifest, and inspects the objects of the manifest in the cluster
until one of them is not available.  What it finds depends on the manifest and on the answers of the cluster
alone, and the document at hand tells it afterwards.
-/

namespace Reconciler

/-! ## Equal answers of the cluster -/

/-- The cluster answers reads alike in worlds that are related, which they are afterwards. -/
def ReadsAlike {ω : Type} [World ω] (related : ω → ω → Prop) : Prop :=
  ∀ {w v}, related w v → ∀ {α : Type} (call : ClusterCall α), call.replaces = false →
    call.posts = false → (World.cluster call w).1 = (World.cluster call v).1 ∧
      related (World.cluster call w).2 (World.cluster call v).2

section Alike

variable {ω α : Type} {related : ω → ω → Prop} [World ω]

theorem respects_reading (alike : ReadsAlike related) {call : ClusterCall α}
    (reads : call.replaces = false) (quiet : call.posts = false) :
    Respects (Session.Related related) (Work.cluster call) :=
  respects_question fun same => alike same call reads quiet

/-- Lookups are reads. -/
theorem ReadsAlike.looksUp (alike : ReadsAlike related) : LooksUpAlike related := by
  intro w v same β call looks
  cases call <;> first | exact alike same _ rfl rfl | exact absurd looks Bool.false_ne_true

namespace ChartHandling

variable (alike : ReadsAlike related)
include alike

theorem respects_checkObject (ref : ObjectRef) :
    Respects (Session.Related related) (checkObject (ω := ω) ref) := by
  refine respects_bind (respects_ofExcept _) fun kind => ?_
  refine respects_bind (Cluster.respects_resourceOf alike.looksUp kind) fun resource => ?_
  refine respects_bind (respects_attempt (Cluster.respects_read alike.looksUp _ _ _)) fun outcome => ?_
  cases outcome with
  | ok object =>
      dsimp only
      split
      · exact respects_ofExcept (.ok _)
      · exact respects_ofExcept (.error _)
      · exact respects_ofExcept (.error _)
  | error failure => exact respects_ofExcept (.error _)

/-- The first object that is not available depends on the answers of the cluster alone. -/
theorem respects_firstUnavailable (refs : List ObjectRef) :
    Respects (Session.Related related) (firstUnavailable (ω := ω) refs) := by
  induction refs with
  | nil => exact respects_ofExcept (.ok _)
  -- A check leaves related worlds behind, so the next one cannot tell them apart either.
  | cons ref rest ih =>
      refine respects_bind (respects_attempt (respects_checkObject alike ref)) fun outcome => ?_
      split
      · exact ih
      · exact respects_ofExcept (.ok _)
      · exact respects_ofExcept (.error _)

end ChartHandling

end Alike

/-! ## Observing a release -/

namespace ChartHandling

variable {ω : Type} [World ω] (chart : ChartHandling)

/-- Renders the manifest of the release of the document at hand, none when it does not exist. The answer
holds the observed state before. -/
def renderRelease : Reconcile ω (Option (Release × Fields × List UInt8)) := do
  let release ← inSession (releaseOf (← Desk.current))
  if !(← inSession (hasRelease release)) then
    chart.handling.logDebug "Release not found" []
    pure none
  else
    let before ← ofExcept (← Desk.current).statusFields
    let values ← ofExcept (← Desk.current).specFields
    let manifest ← inSession (Work.chart (.render release values))
    pure (some (release, before, manifest))

/-- Looks for the first object of a manifest that is not available. -/
def inspect (release : Release) (manifest : List UInt8) : Reconcile ω (Option (ObjectRef × Failure)) :=
  do
    let refs ← ofExcept (Manifest.refsOfBytes manifest)
    inSession (firstUnavailable (refs.map (placed release)))

/-- Logs for which object the document at hand waits, if for any. -/
def logFound (found : Option (ObjectRef × Failure)) : Reconcile ω Unit :=
  match found with
  | some (ref, _) =>
    chart.handling.logStep .info ("Object " ++ ref.text ++ " not available") "info" "Unavailable" []
  | none => pure ()

/-- Makes known what was found. -/
def conclude (before : Fields) (found : Option (ObjectRef × Failure)) : Reconcile ω Bool := do
  Handling.tell found
  let _ ← Handling.persistStatus (some (.map before))
  chart.logFound found
  pure true

theorem observeRelease_eq :
    chart.observeRelease (ω := ω) = (do
      match ← chart.renderRelease with
      | none => pure false
      | some (release, before, manifest) =>
        chart.conclude before (← inspect release manifest)) := by
  unfold observeRelease renderRelease
  simp only [bind_assoc]
  refine bind_congr fun doc => bind_congr fun release => bind_congr fun isThere => ?_
  cases isThere with
  | false => simp
  | true =>
      simp only [Bool.not_true, Bool.false_eq_true, if_false, bind_assoc, pure_bind, inspect]
      refine bind_congr fun doc => bind_congr fun before => bind_congr fun doc => ?_
      refine bind_congr fun values => bind_congr fun manifest => bind_congr fun refs => ?_
      refine bind_congr fun found => ?_
      cases found with
      | some entry =>
          simp only [conclude, Handling.tell, logFound, bind_assoc]
          rfl
      | none => simp only [conclude, Handling.tell, logFound, pure_bind]

theorem done_renderRelease :
    Reconcile.Done ⟨false, true, true, false⟩ (chart.renderRelease (ω := ω)) := by
  refine done_current fun doc => .bind (done_inSession (made_releaseOf rfl doc)) fun release => ?_
  refine .bind (done_inSession (made_hasRelease rfl release)) fun isThere => ?_
  split
  · exact .bind (Handling.done_logStep _ _ _ _ _ _) fun _ => .pure _
  · refine done_current fun doc => .bind (.ofExcept _) fun before => ?_
    refine done_current fun doc => .bind (.ofExcept _) fun values => ?_
    exact .bind (done_inSession (.part (.chart rfl _))) fun manifest => .pure _

/-- The release of a document is in its namespace. -/
theorem renderRelease_states {desk : Desk ω} {release : Release} {before : Fields}
    {manifest : List UInt8}
    (rendered : answer chart.renderRelease desk = .ok (some (release, before, manifest))) :
    desk.document.statusFields = .ok before ∧ release.namespace_ = desk.document.namespace_ := by
  obtain ⟨doc, at_hand, rendered⟩ := ok_of_answer_bind rendered
  obtain rfl : desk.document = doc := Except.ok.inj at_hand
  obtain ⟨own, released, rendered⟩ := ok_of_answer_bind rendered
  rw [answer_inSession] at released
  obtain ⟨info, -, named⟩ := ok_of_answer_bind released
  obtain ⟨isThere, -, rendered⟩ := ok_of_answer_bind rendered
  rw [final_inSession, final_inSession] at rendered
  cases isThere with
  | false =>
      obtain ⟨_, -, absent⟩ := ok_of_answer_bind rendered
      exact absurd (Except.ok.inj absent) (by simp)
  | true =>
      obtain ⟨again, at_hand, rendered⟩ := ok_of_answer_bind rendered
      obtain rfl : desk.document = again := Except.ok.inj at_hand
      obtain ⟨status, stated, rendered⟩ := ok_of_answer_bind rendered
      obtain ⟨_, -, rendered⟩ := ok_of_answer_bind rendered
      obtain ⟨values, -, rendered⟩ := ok_of_answer_bind rendered
      obtain ⟨text, -, rendered⟩ := ok_of_answer_bind rendered
      have same := Option.some.inj (Except.ok.inj rendered)
      simp only [Prod.mk.injEq] at same
      obtain ⟨rfl, rfl, -⟩ := same
      rw [answer_ofExcept] at stated
      exact ⟨stated, (congrArg Release.namespace_ (Except.ok.inj named)).symm⟩

theorem done_inspect (release : Release) (manifest : List UInt8) :
    Reconcile.Done ⟨false, true, true, false⟩ (inspect (ω := ω) release manifest) :=
  .bind (.ofExcept _) fun _ => done_inSession (made_firstUnavailable _)

/-- What is found depends on the namespace of the release, the manifest, and the answers of the cluster. -/
theorem inspect_alike {related : ω → ω → Prop} (alike : ReadsAlike related) {desk later : Desk ω}
    (same : Session.Related related desk.session later.session) {release other : Release}
    (placed_alike : release.namespace_ = other.namespace_) (manifest : List UInt8) :
    answer (inspect release manifest) desk = answer (inspect other manifest) later := by
  have places : placed release = placed other := by
    funext ref
    unfold placed
    rw [placed_alike]
  unfold inspect
  rw [answer_bind, answer_bind, answer_ofExcept, answer_ofExcept, final_ofExcept, final_ofExcept]
  cases Manifest.refsOfBytes manifest with
  | error failure => rfl
  | ok refs =>
      dsimp only
      rw [answer_inSession, answer_inSession, places]
      exact (respects_firstUnavailable alike _ _ _ same).1

theorem keeps_logFound (found : Option (ObjectRef × Failure)) :
    Keeps Desk.trail (chart.logFound (ω := Recorded ω) found) := by
  cases found with
  | none => exact keeps_pure _
  | some entry => exact keeps_done (Handling.done_logStep _ _ _ _ _ _)

omit [World ω] in
theorem answer_logFound (found : Option (ObjectRef × Failure)) (desk : Desk ω) :
    answer (chart.logFound found) desk = .ok () := by
  cases found <;> rfl

section Concluding

variable {desk : Desk (Recorded ω)} {status : Fields} {found : Option (ObjectRef × Failure)}

/-- The document at hand tells what was made known. -/
theorem conclude_tells (stated : desk.trail.statusFields = .ok status) (before : Fields)
    (found : Option (ObjectRef × Failure)) :
    ∃ now, (final (chart.conclude (ω := Recorded ω) before found) desk).trail.statusFields =
      .ok (Document.telling found now status) := by
  obtain ⟨answered, ⟨now, left⟩, -⟩ := restated_tell found stated
  have written := statusFields_persistStatus left before
  unfold conclude
  rw [final_bind_ok answered, final_bind]
  refine ⟨now, ?_⟩
  split
  · rw [keeps_bind (chart.keeps_logFound found) fun _ => keeps_pure true]
    exact written
  · exact written

/-- What the document at hand tells already is made known without a write. -/
theorem conclude_settled (stated : desk.trail.statusFields = .ok status)
    (proper : (Value.map status).Proper) (settled : Document.Settled found status) :
    let act := chart.conclude (ω := Recorded ω) status found
    answer act desk = .ok true ∧ (final act desk).trail.statusFields = .ok status ∧
      (final act desk).statusWrites = desk.statusWrites := by
  obtain ⟨kept, left, same⟩ := tell_settled stated proper settled
  have parts : chart.conclude (ω := Recorded ω) status found = (do
      let _ ← (do
        Handling.tell found
        Handling.persistStatus (some (.map status)))
      chart.logFound found
      pure true) := by
    unfold conclude
    rw [bind_assoc]
  have tail := keeps_bind (chart.keeps_logFound (ω := ω) found) fun _ => keeps_pure true
  dsimp only
  rw [parts, answer_bind_ok kept, final_bind_ok kept, Desk.statusWrites, tail]
  refine ⟨?_, left, congrArg (fun session => Trail.statusWrites ⟨_, Session.writes session⟩) same⟩
  rw [answer_bind_ok (chart.answer_logFound found _)]
  rfl

end Concluding

/-- The desk after the manifest was rendered. -/
def rendered (desk : Desk ω) : Desk ω :=
  final chart.renderRelease (final (chart.handling.announce "observe") desk)

/-- The manifest of the release of the document at hand is rendered. -/
def Renders (desk : Desk ω) (release : Release) (before : Fields) (manifest : List UInt8) : Prop :=
  answer chart.renderRelease (final (chart.handling.announce "observe") desk) =
    .ok (some (release, before, manifest))

section Observing

variable {desk : Desk (Recorded ω)} {release : Release} {before : Fields} {manifest : List UInt8}

/-- An observation of a release that exists makes known what an inspection finds. -/
theorem observe_eq_conclude {found : Option (ObjectRef × Failure)}
    (renders : chart.Renders desk release before manifest)
    (inspected : answer (inspect release manifest) (chart.rendered desk) = .ok found) :
    let act := chart.conclude (ω := Recorded ω) before found
    ∃ next, next.trail = desk.trail ∧ answer chart.handler.observe desk = answer act next ∧
      (final chart.handler.observe desk).trail = (final act next).trail := by
  let announced := final (chart.handling.announce "observe") desk
  have announces : answer (chart.handling.announce "observe") desk =
      .ok (chart.handling.kindOf desk.document) := rfl
  have found_release : answer chart.renderRelease announced = _ := renders
  refine ⟨final (inspect release manifest) (chart.rendered desk), ?_, ?_, ?_⟩
  · exact (keeps_done (done_inspect release manifest) _).trans
      ((keeps_done chart.done_renderRelease _).trans (chart.handling.keeps_announce "observe" desk))
  · refine (chart.handling.answer_measured chart.observeRelease announces).trans ?_
    rw [observeRelease_eq, answer_bind_ok found_release]
    exact answer_bind_ok inspected _
  · refine (chart.handling.trail_measured chart.observeRelease announces).trans ?_
    rw [observeRelease_eq, final_bind_ok found_release]
    exact congrArg Desk.trail (final_bind_ok inspected _)

/-- An observation that says that the release is there has rendered and inspected it. -/
theorem exists_inspected (seen : answer chart.handler.observe desk = .ok true) :
    ∃ release before manifest found, chart.Renders desk release before manifest ∧
      answer (inspect release manifest) (chart.rendered desk) = .ok found := by
  have announces : answer (chart.handling.announce "observe") desk =
      .ok (chart.handling.kindOf desk.document) := rfl
  have observed := (chart.handling.answer_measured chart.observeRelease announces).symm.trans seen
  rw [observeRelease_eq] at observed
  obtain ⟨outcome, renders, observed⟩ := ok_of_answer_bind observed
  cases outcome with
  | none => exact absurd (Except.ok.inj observed) (by simp)
  | some parts =>
      obtain ⟨release, before, manifest⟩ := parts
      obtain ⟨found, inspected, -⟩ := ok_of_answer_bind observed
      exact ⟨release, before, manifest, found, renders, inspected⟩

end Observing

end ChartHandling

end Reconciler
