import Reconciler.Proofs.Reconciliation.Shown

/-!
# What an observation finds

An observation of the external resource asks the backend, by the identifiers of the document at hand or by
a search, and judges the answer.  It finds the resource as desired, absent, or different, or it fails; what
the document at hand then says about the resource fits what was found, and the cluster was shown it.
-/

namespace Reconciler

open Document

theorem ne_drift_of_plain {failure : Failure} (plain : failure.isVerdict = false)
    (fields : List String) : failure ≠ .drift fields := by
  rintro rfl
  contradiction

/-- A call that no verb makes is the only verdict of a resolution. -/
theorem Call.resolve_error {description : Description} {descriptor : Descriptor} {action : Action}
    {failure : Failure} (failed : resolve description descriptor action = .error failure) :
    verbFor? action descriptor.verbs = none ∧
        failure = .unresolvedAction action.text (some descriptor.kind) ∨
      failure.isVerdict = false := by
  unfold resolve at failed
  split at failed
  next verb _ => exact .inr (impartial_ofVerb description descriptor action verb failure failed)
  next absent => exact .inl ⟨absent, (Except.error.inj failed).symm⟩

theorem ofExcept_bind {ε σ α β : Type} (outcome : Except ε α) (next : α → Except ε β) :
    (ofExcept (outcome >>= next) : EStateM ε σ β) =
      ofExcept outcome >>= fun a => ofExcept (next a) := by
  cases outcome <;> rfl

namespace RestHandling

variable {ω : Type} [World ω] (rest : RestHandling)

/-- The request that a call makes for a document. -/
def requestFor (call : Call) (doc : Document) : Except Failure Request := do
  call.request (← doc.statusFields) (← doc.specFields)

/-- The backend was asked about the document at hand: by its identifiers if it has one of them, and by a
search otherwise. -/
structure Looked (descriptor : Descriptor) (client : Client) (desk : Desk ω) (call : Call)
    (outcome : Except Failure Value) : Prop where
  /-- The call is the declared one. -/
  chosen : ∃ isKnown, desk.document.hasIdentifier descriptor.identifiers = .ok isKnown ∧
    Call.resolve client.description descriptor (if isKnown then .get else .findBy) = .ok call
  /-- The call was made with what the document holds. -/
  asked : ∃ request, requestFor call desk.document = .ok request ∧
    answer (client.performBound (.ofCall call) call.path request) desk.session = outcome

namespace Looked

variable {descriptor : Descriptor} {client : Client} {desk : Desk ω} {call other : Call}
  {outcome result : Except Failure Value}

/-- The backend is asked in one way, and gives one answer. -/
theorem unique (one : Looked descriptor client desk call outcome)
    (two : Looked descriptor client desk other result) : call = other ∧ outcome = result := by
  obtain ⟨⟨isKnown, known, resolved⟩, request, bound, answered⟩ := one
  obtain ⟨⟨isKnown', known', resolved'⟩, request', bound', answered'⟩ := two
  obtain rfl : isKnown = isKnown' := Except.ok.inj (known.symm.trans known')
  obtain rfl : call = other := Except.ok.inj (resolved.symm.trans resolved')
  obtain rfl : request = request' := Except.ok.inj (bound.symm.trans bound')
  exact ⟨rfl, answered.symm.trans answered'⟩

theorem identifiers (looked : Looked descriptor client desk call outcome) :
    call.identifiers = descriptor.identifiers := by
  obtain ⟨⟨_, -, resolved⟩, -⟩ := looked
  exact Call.identifiers_of_resolve resolved

theorem statusFields (looked : Looked descriptor client desk call outcome) :
    ∃ status, desk.document.statusFields = .ok status := by
  obtain ⟨-, request, bound, -⟩ := looked
  obtain ⟨status, stated, -⟩ := ok_of_bind bound
  exact ⟨status, stated⟩

end Looked

/-- Takes in what an answer says about the identifiers. -/
def takeIn (call : Call) (body : Value) (before : Fields) : Reconcile ω Unit := do
  Desk.edit (writeIdentifiers call.identifiers body)
  let _ ← Handling.persistStatus (some (.map before))

/-- Makes known that the external resource is as desired. -/
def settle : Reconcile ω Bool := do
  let observed ← ofExcept (← Desk.current).statusFields
  Handling.setAvailable
  let _ ← Handling.persistStatus (some (.map observed))
  rest.handling.logDebug "External resource up to date" []
  pure true

/-- Judges an answer about the external resource. -/
def judge (descriptor : Descriptor) (call : Call) (body : Value) (before : Fields) :
    Reconcile ω Bool := do
  takeIn call body before
  rest.compare descriptor call body
  rest.settle

/-- Looks at the external resource with a client of its backend, and judges what is seen. -/
def assess (descriptor : Descriptor) (client : Client) : Reconcile ω Bool := do
  let before ← ofExcept (← Desk.current).statusFields
  match ← rest.lookup client descriptor with
  | none => pure false
  | some call =>
    match ← rest.lookAt client call with
    | none => pure false
    | some body => rest.judge descriptor call body before

theorem observeResource_eq :
    rest.observeResource (ω := ω) = (do
      let connected ← rest.connect
      rest.assess connected.1.descriptor connected.2) := by
  refine bind_congr fun (definition, client) => bind_congr fun doc => bind_congr fun before => ?_
  refine bind_congr fun found => ?_
  cases found with
  | none => rfl
  | some call =>
      refine bind_congr fun seen => ?_
      cases seen with
      | none => rfl
      | some body => simp only [judge, takeIn, settle, bind_assoc, pure_bind]

/-! ## Looking -/

section Looking

variable (descriptor : Descriptor) (client : Client) (desk : Desk ω)

omit [World ω] in
/-- The call that looks at the external resource is found, or a search is not declared. -/
theorem lookup_cases :
    (∃ call isKnown, desk.document.hasIdentifier descriptor.identifiers = .ok isKnown ∧
        Call.resolve client.description descriptor (if isKnown then .get else .findBy) = .ok call ∧
        answer (rest.lookup client descriptor) desk = .ok (some call) ∧
        final (rest.lookup client descriptor) desk = desk) ∨
      (desk.document.hasIdentifier descriptor.identifiers = .ok false ∧
        Call.verbFor? .findBy descriptor.verbs = none ∧
        answer (rest.lookup client descriptor) desk = .ok none) ∨
      ∃ failure, answer (rest.lookup client descriptor) desk = .error failure ∧
        ∀ fields, failure ≠ .drift fields := by
  unfold lookup
  rw [answer_current_bind, final_current_bind]
  cases known : desk.document.hasIdentifier descriptor.identifiers with
  | error failure =>
      exact .inr (.inr ⟨failure, rfl, ne_drift_of_plain (impartial_hasIdentifier _ _ failure known)⟩)
  | ok isKnown =>
      have told : answer (ofExcept (.ok isKnown) : Reconcile ω Bool) desk = .ok isKnown := rfl
      rw [answer_bind_ok told, final_bind_ok told, final_ofExcept]
      dsimp only
      cases resolved : Call.resolve client.description descriptor
          (if isKnown then .get else .findBy) with
      | ok call => exact .inl ⟨call, isKnown, rfl, resolved, rfl, rfl⟩
      | error failure =>
          rcases Call.resolve_error resolved with ⟨absent, rfl⟩ | plain
          · cases isKnown with
            | true => exact .inr (.inr ⟨_, rfl, by simp⟩)
            | false => exact .inr (.inl ⟨rfl, absent, rfl⟩)
          · refine .inr (.inr ⟨failure, ?_, ne_drift_of_plain plain⟩)
            cases failure <;> first | rfl | contradiction

omit [World ω] in
theorem impartial_requestFor (call : Call) (doc : Document) : Impartial (requestFor call doc) :=
  impartial_bind (doc.impartial_topLevelFields _) fun _ =>
    impartial_bind (doc.impartial_topLevelFields _) fun _ => call.impartial_request _ _

omit [World ω] in
theorem ofExcept_requestFor_bind {α : Type} (call : Call) (doc : Document)
    (next : Request → Reconcile ω α) :
    ofExcept (requestFor call doc) >>= next = (do
      let status ← ofExcept doc.statusFields
      let spec ← ofExcept doc.specFields
      let request ← ofExcept (call.request status spec)
      next request) := by
  simp only [requestFor, ofExcept_bind, bind_assoc]

theorem makeCall_eq (call : Call) :
    makeCall (ω := ω) client call = (do
      let request ← ofExcept (requestFor call (← Desk.current))
      inSession (client.performBound (.ofCall call) call.path request)) :=
  bind_congr fun doc => (ofExcept_requestFor_bind call doc _).symm

theorem lookAt_eq (call : Call) :
    rest.lookAt (ω := ω) client call = (do
      let request ← ofExcept (requestFor call (← Desk.current))
      match ← attempt (inSession (client.performBound (.ofCall call) call.path request)) with
      | .ok body => pure (some body)
      | .error failure =>
        if failure.isNotFound then
          rest.handling.logDebug "External resource not found"
            [(.text "action", .text call.action.text)]
          pure none
        else throw failure) := by
  refine bind_congr fun doc => ?_
  exact (ofExcept_requestFor_bind call doc _).symm

/-- The backend answers, or says that there is no external resource, or the call fails. -/
theorem lookAt_cases (call : Call) :
    (∃ request body, requestFor call desk.document = .ok request ∧
        answer (client.performBound (.ofCall call) call.path request) desk.session = .ok body) ∨
      (∃ request failure, requestFor call desk.document = .ok request ∧
        answer (client.performBound (.ofCall call) call.path request) desk.session =
          .error failure ∧ failure.isNotFound = true ∧
        answer (rest.lookAt client call) desk = .ok none) ∨
      ∃ failure, answer (rest.lookAt client call) desk = .error failure ∧
        ∀ fields, failure ≠ .drift fields := by
  rw [lookAt_eq, answer_current_bind]
  cases bound : requestFor call desk.document with
  | error failure =>
      exact .inr (.inr ⟨failure, rfl, ne_drift_of_plain (impartial_requestFor _ _ failure bound)⟩)
  | ok request =>
      rw [answer_bind_ok (a := request) rfl, final_ofExcept,
        answer_bind_ok (answer_attempt _ desk), answer_inSession]
      cases made : answer (client.performBound (.ofCall call) call.path request) desk.session with
      | ok body => exact .inl ⟨request, body, rfl, made⟩
      | error failure =>
          -- A difference counts as not found, so what is thrown here is none.
          cases missing : failure.isNotFound with
          | true =>
              refine .inr (.inl ⟨request, failure, rfl, made, missing, ?_⟩)
              simp only [missing, if_true]
              rfl
          | false =>
              refine .inr (.inr ⟨failure, ?_, ?_⟩)
              · simp only [missing]
                rfl
              · rintro fields rfl
                contradiction

end Looking

section Assessing

variable {descriptor : Descriptor} {client : Client} {desk : Desk (Recorded ω)}

omit [World ω] in
theorem lookup_of_looks {desk : Desk ω} {call : Call} {isKnown : Bool}
    (known : desk.document.hasIdentifier descriptor.identifiers = .ok isKnown)
    (resolved : Call.resolve client.description descriptor (if isKnown then .get else .findBy) =
      .ok call) :
    answer (rest.lookup client descriptor) desk = .ok (some call) ∧
      final (rest.lookup client descriptor) desk = desk := by
  have told : answer (ofExcept (.ok isKnown) : Reconcile ω Bool) desk = .ok isKnown := rfl
  unfold lookup
  rw [answer_current_bind, final_current_bind, known, answer_bind_ok told, final_bind_ok told,
    final_ofExcept]
  dsimp only
  rw [resolved]
  exact ⟨rfl, rfl⟩

/-- Without a search, or when the backend says that it was not found, there is no external resource. -/
theorem assess_of_missing
    (missing : desk.document.hasIdentifier descriptor.identifiers = .ok false ∧
        Call.verbFor? .findBy descriptor.verbs = none ∨
      ∃ call failure, Looked descriptor client desk call (.error failure) ∧
        failure.isNotFound = true) :
    answer (rest.assess (ω := Recorded ω) descriptor client) desk = .ok false := by
  have known : ∃ isKnown, desk.document.hasIdentifier descriptor.identifiers = .ok isKnown := by
    rcases missing with ⟨unknown, -⟩ | ⟨_, _, ⟨⟨isKnown, known, -⟩, -⟩, -⟩
    · exact ⟨false, unknown⟩
    · exact ⟨isKnown, known⟩
  obtain ⟨_, known⟩ := known
  obtain ⟨status, stated, -⟩ := ok_of_bind known
  have told : answer (ofExcept (.ok status) : Reconcile (Recorded ω) Fields) desk = .ok status := rfl
  unfold assess
  rw [answer_current_bind, stated, answer_bind_ok told, final_ofExcept]
  rcases missing with ⟨unknown, undeclared⟩ | ⟨call, failure, looked, missing⟩
  · have unresolved : Call.resolve client.description descriptor .findBy =
        .error (.unresolvedAction Action.findBy.text (some descriptor.kind)) := by
      rw [Call.resolve, undeclared]
    have none_found : answer (rest.lookup client descriptor) desk = .ok none := by
      have told : answer (ofExcept (.ok false) : Reconcile (Recorded ω) Bool) desk = .ok false := rfl
      unfold lookup
      rw [answer_current_bind, unknown, answer_bind_ok told, final_ofExcept]
      simp only [Bool.false_eq_true, if_false, unresolved]
      rfl
    exact answer_bind_ok none_found _
  · obtain ⟨⟨isKnown, known, resolved⟩, request, bound, made⟩ := looked
    obtain ⟨found, same⟩ := rest.lookup_of_looks known resolved
    have unseen : answer (rest.lookAt client call) desk = .ok none := by
      rw [lookAt_eq, answer_current_bind, bound, answer_bind_ok (answer_ofExcept _ desk),
        final_ofExcept, answer_bind_ok (answer_attempt _ desk), answer_inSession, made]
      simp only [missing, if_true]
      rfl
    rw [answer_bind_ok found, same]
    exact answer_bind_ok unseen _

/-- Once the backend answered, the answer is judged. -/
theorem assess_of_looked {call : Call} {body : Value} {status : Fields}
    (looked : Looked descriptor client desk call (.ok body))
    (stated : desk.document.statusFields = .ok status) :
    let act := rest.assess (ω := Recorded ω) descriptor client
    let judged := rest.judge (ω := Recorded ω) descriptor call body status
    ∃ next, next.trail = desk.trail ∧ next.document = desk.document ∧
      (∀ kind, next.drifts kind = desk.drifts kind) ∧ answer act desk = answer judged next ∧
      final act desk = final judged next := by
  dsimp only
  obtain ⟨⟨isKnown, known, resolved⟩, request, bound, made⟩ := looked
  have told : answer (ofExcept (.ok status) : Reconcile (Recorded ω) Fields) desk = .ok status := rfl
  have found := rest.lookup_of_looks known resolved
  have seen : answer (rest.lookAt client call) desk = .ok (some body) := by
    rw [lookAt_eq, answer_current_bind, bound, answer_bind_ok (answer_ofExcept _ desk),
      final_ofExcept, answer_bind_ok (answer_attempt _ desk), answer_inSession, made]
    rfl
  have done : Reconcile.Done ⟨false, true, true, false⟩
      (rest.lookAt (ω := Recorded ω) client call) := rest.done_lookAt rfl rfl client call
  refine ⟨final (rest.lookAt client call) desk, keeps_done done desk, keeps_document done rfl desk,
    fun kind => keeps_drifts_done done kind desk, ?_, ?_⟩
  · unfold assess
    rw [answer_current_bind, stated, answer_bind_ok told, final_ofExcept, answer_bind_ok found.1,
      found.2]
    exact answer_bind_ok seen _
  · unfold assess
    rw [final_current_bind, stated, final_bind_ok told, final_ofExcept, final_bind_ok found.1, found.2]
    exact final_bind_ok seen _

/-- A look at the external resource gets an answer of the backend; without one it finds no external resource
or fails, and leaves the document at hand and the cluster as they are. -/
theorem assess_cases (descriptor : Descriptor) (client : Client) (desk : Desk (Recorded ω)) :
    let act := rest.assess (ω := Recorded ω) descriptor client
    (∃ call body status, Looked descriptor client desk call (.ok body) ∧
        desk.document.statusFields = .ok status) ∨
      (final act desk).trail = desk.trail ∧
        (answer act desk = .ok false ∧
            (desk.document.hasIdentifier descriptor.identifiers = .ok false ∧
                Call.verbFor? .findBy descriptor.verbs = none ∨
              ∃ call failure, Looked descriptor client desk call (.error failure) ∧
                failure.isNotFound = true) ∨
          ∃ failure, answer act desk = .error failure ∧ ∀ fields, failure ≠ .drift fields) := by
  dsimp only
  unfold assess
  rw [answer_current_bind, final_current_bind]
  cases stated : desk.document.statusFields with
  | error failure =>
      exact .inr ⟨rfl, .inr ⟨failure, rfl,
        ne_drift_of_plain (impartial_topLevelFields _ _ failure stated)⟩⟩
  | ok status =>
      have told : answer (ofExcept (.ok status) : Reconcile (Recorded ω) Fields) desk = .ok status :=
        rfl
      rw [answer_bind_ok told, final_bind_ok told, final_ofExcept]
      have looked_up : (final (rest.lookup client descriptor) desk).trail = desk.trail :=
        keeps_done (rest.done_lookup client descriptor) desk
      rcases rest.lookup_cases descriptor client desk with
        ⟨call, isKnown, known, resolved, found, same⟩ | ⟨unknown, undeclared, found⟩ |
        ⟨failure, failed, plain⟩
      · have looked_at : (final (rest.lookAt client call) desk).trail = desk.trail :=
          keeps_done (rest.done_lookAt rfl rfl client call) desk
        rw [answer_bind_ok found, final_bind_ok found, same]
        dsimp only
        rcases rest.lookAt_cases client desk call with
          ⟨request, body, bound, answered⟩ |
          ⟨request, failure, bound, answered, missing, seen⟩ | ⟨failure, failed, plain⟩
        · exact .inl ⟨call, body, status, ⟨⟨isKnown, known, resolved⟩, request, bound, answered⟩, rfl⟩
        · rw [answer_bind_ok seen, final_bind_ok seen]
          exact .inr ⟨looked_at, .inl ⟨rfl, .inr ⟨call, failure,
            ⟨⟨isKnown, known, resolved⟩, request, bound, answered⟩, missing⟩⟩⟩
        · rw [answer_bind, final_bind, failed]
          exact .inr ⟨looked_at, .inr ⟨failure, rfl, plain⟩⟩
      · rw [answer_bind_ok found, final_bind_ok found]
        exact .inr ⟨looked_up, .inl ⟨rfl, .inl ⟨unknown, undeclared⟩⟩⟩
      · rw [answer_bind, final_bind, failed]
        exact .inr ⟨looked_up, .inr ⟨failure, rfl, plain⟩⟩

end Assessing

/-! ## Judging -/

section Judging

variable (descriptor : Descriptor) (call : Call) (body : Value) {desk : Desk (Recorded ω)}
  {start : Trail} {status : Fields}

/-- An answer is taken in: its identifiers are noted and shown to the cluster. -/
theorem takeIn_cases (stated : desk.trail.statusFields = .ok status)
    (shows : start.Shows desk.trail status) :
    let act := takeIn (ω := Recorded ω) call body status
    let after := noted body call.identifiers status
    (answer act desk = .ok () ∧ (final act desk).trail.statusFields = .ok after ∧
        start.Shows (final act desk).trail after) ∨
      ∃ failure, answer act desk = .error failure ∧
        ((∃ name ∈ call.identifiers, statedText? body name = some (.error failure)) ∨
          (final act desk).trail.Unplaced ω failure ∨
          (final act desk).trail.statusFields = .ok after ∧
            start.Shows (final act desk).trail after) := by
  dsimp only
  unfold takeIn
  have at_hand : desk.document.statusFields = .ok status := stated
  rcases writeIdentifiers_cases at_hand call.identifiers body with
    ⟨answered, left⟩ | ⟨name, own, failure, states, failed⟩
  · let next : Desk (Recorded ω) :=
      { desk with document := final (writeIdentifiers call.identifiers body) desk.document }
    have edited : answer (Desk.edit (writeIdentifiers call.identifiers body)) desk = .ok () :=
      (answer_edit _ desk).trans answered
    have stated : next.trail.statusFields = .ok (noted body call.identifiers status) := left
    have shows : start.Shows next.trail status := shows.of_writes_eq rfl
    rw [answer_bind_ok edited, final_bind_ok edited, final_edit, answer_bind_pure, final_bind_pure]
    obtain ⟨still, outcome⟩ := synced_persistStatus stated shows
    rcases outcome with ⟨unchanged, answered, same⟩ | shown | ⟨failure, failed, unplaced⟩
    -- Identifiers that did not change the observed state were all noted before.
    · refine .inl ⟨by rw [answered]; rfl, still, ?_⟩
      rw [same, noted_of_unchanged unchanged]
      exact shows
    · cases answered : answer (Handling.persistStatus (some (.map status))) next with
      | ok written => exact .inl ⟨rfl, still, shown⟩
      | error failure => exact .inr ⟨failure, rfl, .inr (.inr ⟨still, shown⟩)⟩
    · exact .inr ⟨failure, by rw [failed]; rfl, .inr (.inl unplaced)⟩
  · refine .inr ⟨failure, ?_, .inl ⟨name, own, states⟩⟩
    rw [answer_bind, answer_edit, failed]

omit [World ω] in
theorem impartial_driftFields (spec response : Fields) (compared : List String)
    (renames : Bindings) : Impartial (Drift.fields spec response compared renames) := by
  have listed (names : List String) : Impartial (Drift.listed spec response renames names) := by
    induction names with
    | nil => exact impartial_ok _
    | cons name rest ih =>
        unfold Drift.listed
        split
        · exact impartial_error rfl
        · split
          next failure failed => exact impartial_error (ih failure failed)
          · split <;> exact impartial_ok _
  unfold Drift.fields
  split
  · exact impartial_ok _
  · exact listed compared

/-- The fields in which a document differs from an answer about the external resource; an answer that is no
map has no fields. -/
def driftOf (doc : Document) : Except Failure (List String) := do
  Drift.fields (← doc.specFields) (body.fields?.getD []) descriptor.compared call.renames

theorem compare_eq :
    rest.compare (ω := ω) descriptor call body = (do
      let drifted ← ofExcept (driftOf descriptor call body (← Desk.current))
      if !drifted.isEmpty then rest.reportDrift drifted) := by
  refine bind_congr fun doc => ?_
  simp only [driftOf, ofExcept_bind, bind_assoc]

/-- A difference is counted once and told, and that is how the observation fails, unless telling fails. -/
theorem reportDrift_cases (drifted : List String) (desk : Desk ω) :
    let act := rest.reportDrift (ω := ω) drifted
    (final act desk).drifts desk.document.kind = desk.drifts desk.document.kind + 1 ∧
      (answer act desk = .error (.drift drifted) ∨
        ∃ failure, answer act desk = .error failure ∧
          (ClusterFair ω → failure.isVerdict = false)) := by
  dsimp only
  let metric : Metric := .drifts desk.document.kind
  let counted : Desk ω := final (count metric) desk
  let tell : Reconcile ω Unit := do
    inSession (rest.handling.recorder.driftDetected desk.document drifted)
    rest.handling.logStep .info "External resource is not up to date" "drift" "DriftDetected"
      [(.text "fields", .texts drifted)]
    throw (.drift drifted)
  have once : counted.drifts desk.document.kind = desk.drifts desk.document.kind + 1 := by
    change (desk.session.telemetry.count metric).counts.count metric = _
    rw [Telemetry.counts_count, if_pos rfl]
    rfl
  have done : Reconcile.Done .full tell :=
    .bind (done_inSession (.part (.emit _ _ _ _ _))) fun _ =>
      .bind (Handling.done_logStep _ _ _ _ _ _) fun _ => .throw _
  refine ⟨(keeps_drifts_done done _ counted).trans once, ?_⟩
  change answer tell counted = _ ∨ ∃ failure, answer tell counted = _ ∧ _
  cases told : answer (inSession (rest.handling.recorder.driftDetected desk.document drifted))
      counted with
  | ok _ =>
      rw [answer_bind_ok told]
      exact .inl rfl
  | error failure =>
      exact .inr ⟨failure, by rw [answer_bind, told], fun fair =>
        fair_inSession (fair_emit fair _ _ _ _ _) counted failure told⟩

/-- An answer is compared: the external resource is as desired, or it is told to differ and the difference
counted, or the comparison fails. -/
theorem compare_cases (desk : Desk (Recorded ω)) :
    let act := rest.compare (ω := Recorded ω) descriptor call body
    let found := driftOf descriptor call body desk.document
    (answer act desk = .ok () ∧ found = .ok []) ∨
      (∃ drifted, answer act desk = .error (.drift drifted) ∧ found = .ok drifted ∧ drifted ≠ [] ∧
        (final act desk).drifts desk.document.kind = desk.drifts desk.document.kind + 1) ∨
      ∃ failure, answer act desk = .error failure ∧ (ClusterFair ω → failure.isVerdict = false) := by
  dsimp only
  rw [compare_eq, answer_current_bind, final_current_bind]
  cases found : driftOf descriptor call body desk.document with
  | error failure =>
      exact .inr (.inr ⟨failure, rfl, fun _ => impartial_bind (impartial_topLevelFields _ _)
        (fun spec => impartial_driftFields spec _ _ _) failure found⟩)
  | ok drifted =>
      rw [answer_bind_ok (answer_ofExcept _ desk), final_bind_ok (answer_ofExcept _ desk),
        final_ofExcept]
      cases drifted with
      | nil => exact .inl ⟨rfl, rfl⟩
      | cons name others =>
          obtain ⟨counted, told | ⟨failure, failed, plain⟩⟩ :=
            rest.reportDrift_cases (name :: others) desk
          · exact .inr (.inl ⟨name :: others, told, rfl, by simp, counted⟩)
          · exact .inr (.inr ⟨failure, failed, fun fair => plain fair.recorded⟩)

/-- The external resource is as desired: the document at hand tells so, and the cluster is shown it. -/
theorem settle_cases (stated : desk.trail.statusFields = .ok status)
    (shows : start.Shows desk.trail status) :
    let act := rest.settle (ω := Recorded ω)
    ∃ now, (final act desk).trail.statusFields = .ok (madeAvailable now status) ∧
      (answer act desk = .ok true ∧ start.Synced (final act desk).trail ∨
        ∃ failure, answer act desk = .error failure ∧ (ClusterFair ω → failure.isVerdict = false) ∧
          (start.Synced (final act desk).trail ∨ (final act desk).trail.Unplaced ω failure)) := by
  dsimp only
  unfold settle
  have told : answer (ofExcept desk.document.statusFields : Reconcile (Recorded ω) Fields) desk =
      .ok status := (answer_ofExcept _ desk).trans stated
  obtain ⟨answered, ⟨now, available⟩, kept⟩ := restated_setAvailable (ω := ω) stated
  let next := final (Handling.setAvailable (ω := Recorded ω)) desk
  have shows : start.Shows next.trail status :=
    shows.of_writes_eq (congrArg (fun session => Trail.statusWrites ⟨_, Session.writes session⟩) kept)
  obtain ⟨still, outcome⟩ := synced_persistStatus available shows
  rw [answer_current_bind, final_current_bind, answer_bind_ok told, final_bind_ok told,
    final_ofExcept, answer_bind_ok answered, final_bind_ok answered]
  have tail : Keeps Desk.trail (do
      rest.handling.logDebug "External resource up to date" []
      pure true : Reconcile (Recorded ω) Bool) :=
    keeps_bind (keeps_done (Handling.done_logStep _ _ _ _ _ _)) fun _ => keeps_pure true
  refine ⟨now, ?_⟩
  cases answered : answer (Handling.persistStatus (some (.map status))) next with
  | error failure =>
      rw [answer_bind, final_bind, answered]
      refine ⟨still, .inr ⟨failure, rfl, fun fair =>
        fair_persistStatus fair.recorded status next failure answered, ?_⟩⟩
      rcases outcome with ⟨-, fine, -⟩ | shown | ⟨other, failed, unplaced⟩
      · rw [answered] at fine
        contradiction
      · exact .inl ⟨_, _, still, shown, .inl rfl⟩
      · obtain rfl : failure = other := Except.error.inj (answered.symm.trans failed)
        exact .inr unplaced
  | ok written =>
      rw [answer_bind_ok answered, final_bind_ok answered, tail]
      refine ⟨still, .inl ⟨rfl, ?_⟩⟩
      rcases outcome with ⟨unchanged, -, same⟩ | shown | ⟨other, failed, -⟩
      · rw [same]
        exact ⟨_, _, available, shows, .inr unchanged⟩
      · exact ⟨_, _, still, shown, .inl rfl⟩
      · rw [answered] at failed
        contradiction

/-- Taking an answer in leaves alone what is compared and what is counted. -/
theorem takeIn_keeps (status : Fields) (desk : Desk (Recorded ω)) :
    let next := final (takeIn (ω := Recorded ω) call body status) desk
    next.document.specFields = desk.document.specFields ∧
      next.document.kind = desk.document.kind ∧ ∀ kind, next.drifts kind = desk.drifts kind := by
  have trails : Trails (statusPaths call.identifiers)
      (takeIn (ω := Recorded ω) call body status) := by
    refine proceeds_bind (trails_edit (touches_writeIdentifiers (fun name own => ?_) body)) fun _ => ?_
    · simp [statusPaths, own]
    · exact proceeds_bind (trails_persistStatus _) fun _ => (keeps_pure _).proceeds
  have done : Reconcile.Done .full (takeIn (ω := Recorded ω) call body status) :=
    .bind (.part (.edit rfl _)) fun _ => .bind (Handling.done_persistStatus rfl rfl _) fun _ => .pure _
  have same {name : String} (other : name ∉ ["metadata", "status"]) :=
    Trail.Run.follow_eq (trails desk) (statusPaths_apart other)
  refine ⟨topLevelFields_congr (same (by simp)), ?_, fun kind => keeps_drifts_done done kind desk⟩
  exact optionalString_congr (same (by simp))

theorem fair_takeIn (fair : ClusterFair ω) : Fair (takeIn (ω := ω) call body status) :=
  fair_bind (fair_edit (fair_writeIdentifiers _ body)) fun _ =>
    fair_bind (fair_persistStatus fair status) fun _ => fair_pure _

omit [World ω] in
theorem driftOf_congr {doc other : Document} (same : doc.specFields = other.specFields) :
    driftOf descriptor call body doc = driftOf descriptor call body other := by
  unfold driftOf
  rw [same]

/-- How the judgement of an answer ends: the external resource is available, or it differs and the
difference was counted once, or the judgement failed in some other way.  The cluster was shown what is at
hand, unless an identifier has no text or the resource is not found in the cluster. -/
theorem judge_cases (stated : desk.trail.statusFields = .ok status)
    (shows : start.Shows desk.trail status) :
    let act := rest.judge (ω := Recorded ω) descriptor call body status
    let found := driftOf descriptor call body desk.document
    let after := noted body call.identifiers status
    (answer act desk = .ok true ∧ found = .ok [] ∧ start.Synced (final act desk).trail ∧
        ∃ now, (final act desk).trail.statusFields = .ok (madeAvailable now after)) ∨
      (∃ drifted, answer act desk = .error (.drift drifted) ∧ found = .ok drifted ∧ drifted ≠ [] ∧
        (final act desk).drifts desk.document.kind = desk.drifts desk.document.kind + 1 ∧
        start.Synced (final act desk).trail ∧ (final act desk).trail.statusFields = .ok after) ∨
      ∃ failure, answer act desk = .error failure ∧ (ClusterFair ω → failure.isVerdict = false) ∧
        ((∃ name ∈ call.identifiers, statedText? body name = some (.error failure)) ∨
          start.Synced (final act desk).trail ∨ (final act desk).trail.Unplaced ω failure) := by
  dsimp only
  obtain ⟨spec, kind, uncounted⟩ := takeIn_keeps call body status desk
  unfold judge
  rcases takeIn_cases call body stated shows with
    ⟨taken, now_stated, shown⟩ | ⟨failure, failed, outcome⟩
  -- What is compared is what the document stated before the answer was taken in.
  · rw [answer_bind_ok taken, final_bind_ok taken, ← driftOf_congr descriptor call body spec]
    let next : Desk (Recorded ω) := final (takeIn call body status) desk
    have kept : (final (rest.compare descriptor call body) next).trail = next.trail :=
      rest.keeps_compare descriptor call body next
    have synced : start.Synced (final (rest.compare descriptor call body) next).trail := by
      rw [kept]
      exact ⟨_, _, now_stated, shown, .inl rfl⟩
    rcases rest.compare_cases descriptor call body next with
      ⟨fits, found⟩ | ⟨drifted, told, found, some_drifted, counted⟩ | ⟨failure, failed, plain⟩
    · rw [answer_bind_ok fits, final_bind_ok fits]
      rw [← kept] at now_stated shown
      obtain ⟨now, settled, ⟨answered, synced⟩ | ⟨failure, failed, plain, outcome⟩⟩ :=
        rest.settle_cases now_stated shown
      · exact .inl ⟨answered, found, synced, now, settled⟩
      · exact .inr (.inr ⟨failure, failed, plain, .inr outcome⟩)
    · rw [answer_bind, final_bind, told]
      rw [kind, uncounted] at counted
      exact .inr (.inl ⟨drifted, rfl, found, some_drifted, counted, synced, kept ▸ now_stated⟩)
    · rw [answer_bind, final_bind, failed]
      exact .inr (.inr ⟨failure, rfl, plain, .inr (.inl synced)⟩)
  · rw [answer_bind, final_bind, failed]
    refine .inr (.inr ⟨failure, rfl, fun fair =>
      fair_takeIn call body fair.recorded desk failure failed, ?_⟩)
    rcases outcome with textless | unplaced | ⟨now_stated, shown⟩
    · exact .inl textless
    · exact .inr (.inr unplaced)
    · exact .inr (.inl ⟨_, _, now_stated, shown, .inl rfl⟩)

end Judging

/-! ## How a look at the external resource ends -/

/-- How a look at the external resource ends, and what it leaves behind. -/
inductive Ends (descriptor : Descriptor) (client : Client) (start : Trail)
    (desk : Desk (Recorded ω)) : Except Failure Bool → Desk (Recorded ω) → Prop where
  /-- The external resource is as desired, and the document tells so. -/
  | available {call : Call} {body : Value} {status : Fields} {now : String}
    {next : Desk (Recorded ω)} (looked : Looked descriptor client desk call (.ok body))
    (fits : driftOf descriptor call body desk.document = .ok [])
    (stated : desk.trail.statusFields = .ok status)
    (told : next.trail.statusFields = .ok (madeAvailable now (noted body call.identifiers status)))
    (synced : start.Synced next.trail) : Ends descriptor client start desk (.ok true) next
  /-- There is no external resource, or it cannot be searched for. -/
  | absent {next : Desk (Recorded ω)}
    (missing : desk.document.hasIdentifier descriptor.identifiers = .ok false ∧
        Call.verbFor? .findBy descriptor.verbs = none ∨
      ∃ call failure, Looked descriptor client desk call (.error failure) ∧
        failure.isNotFound = true)
    (same : next.trail = desk.trail) : Ends descriptor client start desk (.ok false) next
  /-- The external resource differs, which is counted once. -/
  | drifted {call : Call} {body : Value} {status : Fields} {fields : List String}
    {next : Desk (Recorded ω)} (looked : Looked descriptor client desk call (.ok body))
    (differs : driftOf descriptor call body desk.document = .ok fields) (differing : fields ≠ [])
    (counted : next.drifts desk.document.kind = desk.drifts desk.document.kind + 1)
    (stated : desk.trail.statusFields = .ok status)
    (told : next.trail.statusFields = .ok (noted body call.identifiers status))
    (synced : start.Synced next.trail) :
    Ends descriptor client start desk (.error (.drift fields)) next
  /-- The look fails before an answer is judged. -/
  | unseen {failure : Failure} {next : Desk (Recorded ω)} (plain : ∀ fields, failure ≠ .drift fields)
    (same : next.trail = desk.trail) : Ends descriptor client start desk (.error failure) next
  /-- The judgement of an answer fails. -/
  | unjudged {call : Call} {body : Value} {failure : Failure} {next : Desk (Recorded ω)}
    (looked : Looked descriptor client desk call (.ok body))
    (plain : ClusterFair ω → failure.isVerdict = false)
    (outcome : (∃ name ∈ call.identifiers, statedText? body name = some (.error failure)) ∨
      start.Synced next.trail ∨ next.trail.Unplaced ω failure) :
    Ends descriptor client start desk (.error failure) next

theorem assess_ends (descriptor : Descriptor) (client : Client) {start : Trail}
    {desk : Desk (Recorded ω)} (fresh : start.Precedes desk.trail) :
    let act := rest.assess (ω := Recorded ω) descriptor client
    Ends descriptor client start desk (answer act desk) (final act desk) := by
  dsimp only
  rcases rest.assess_cases descriptor client desk with ⟨call, body, status, looked, stated⟩ |
    ⟨same, ⟨answered, missing⟩ | ⟨failure, failed, plain⟩⟩
  · obtain ⟨next, same, unedited, uncounted, answered, left⟩ := rest.assess_of_looked looked stated
    rw [answered, left]
    have stated' : next.trail.statusFields = .ok status := same ▸ stated
    have shows : start.Shows next.trail status := same ▸ fresh.shows stated
    have judged := rest.judge_cases descriptor call body stated' shows
    rw [unedited, uncounted] at judged
    rcases judged with
      ⟨answered, fits, synced, now, told⟩ |
      ⟨fields, failed, differs, differing, counted, synced, told⟩ | ⟨failure, failed, plain, outcome⟩
    · rw [answered]
      exact .available looked fits stated told synced
    · rw [failed]
      exact .drifted looked differs differing counted stated told synced
    · rw [failed]
      exact .unjudged looked plain outcome
  · rw [answered]
    exact .absent missing same
  · rw [failed]
    exact .unseen plain same

/-! ## Observing -/

section Observing

/-- The desk at which the backend is asked: the observation is announced, and the owners of the document
are adopted. -/
def connected (desk : Desk ω) : Desk ω :=
  final rest.connect (final (rest.handling.announce "observe") desk)

/-- The definition of the document at hand and a client of its backend are found. -/
def Reaches (desk : Desk ω) (definition : Definition) (client : Client) : Prop :=
  answer rest.connect (final (rest.handling.announce "observe") desk) = .ok (definition, client)

theorem keeps_statusWrites_connect :
    Keeps Desk.statusWrites (rest.connect (ω := Recorded ω)) := by
  have opened (definition : Definition) : Keeps Desk.statusWrites (do
      let description ← inSession (Description.loadOnce definition.url rest.timeout)
      let client ← ofExcept (Client.ofDescription description none definition.credentials
        rest.timeout (definition.isVerbose || rest.logsRequests))
      pure (definition, client) : Reconcile (Recorded ω) (Definition × Client)) := by
    have loaded := keeps_done (ω := ω)
      (done_inSession (Description.made_loadOnce rfl definition.url rest.timeout))
    exact keeps_bind (keeps_statusWrites loaded) fun _ =>
      keeps_bind (keeps_ofExcept _) fun _ => keeps_pure _
  refine keeps_bind (keeps_statusWrites keeps_current) fun doc => ?_
  have resolved := keeps_done (ω := ω)
    (done_inSession (Definition.made_resolve rfl rest.definitions doc))
  refine keeps_bind (keeps_statusWrites resolved) fun definition => ?_
  dsimp only
  split
  · exact keeps_bind (keeps_statusWrites_adopt _) fun _ => opened definition
  · exact opened definition

/-- A document is connected to its backend by edits of its metadata. -/
theorem follow_connect (desk : Desk (Recorded ω)) {name : String} (other : name ≠ "metadata") :
    (final rest.connect desk).document.object.follow [name] = desk.document.object.follow [name] := by
  have apart : ∀ path ∈ [versionPath, ownersPath], Apart path [name] := by
    simp [versionPath, ownersPath, Ne.symm other]
  exact Trail.Run.follow_eq (rest.trails_connect desk) apart

/-- Before the backend is asked, no observed state is written, no difference is counted, and the document
is edited in its metadata alone. -/
theorem connected_keeps (desk : Desk (Recorded ω)) :
    let next := rest.connected desk
    next.statusWrites = desk.statusWrites ∧ (∀ kind, next.drifts kind = desk.drifts kind) ∧
      ∀ name, name ≠ "metadata" →
        next.document.object.follow [name] = desk.document.object.follow [name] := by
  let announced := final (rest.handling.announce "observe") desk
  have same : announced.trail = desk.trail := rest.handling.keeps_announce "observe" desk
  refine ⟨?_, fun kind => ?_, fun name other => ?_⟩
  · exact (rest.keeps_statusWrites_connect announced).trans (congrArg Trail.statusWrites same)
  · have announces : Reconcile.Done .full (rest.handling.announce (ω := Recorded ω) "observe") :=
      rest.handling.done_announce "observe"
    have connects : Reconcile.Done .full (rest.connect (ω := Recorded ω)) :=
      rest.done_connect rfl rfl rfl
    exact (keeps_drifts_done connects kind announced).trans (keeps_drifts_done announces kind desk)
  · exact (rest.follow_connect announced other).trans
      (congrArg (fun trail => trail.object.follow [name]) same)

/-- What the backend is asked about is what the document says at the start. -/
theorem connected_states (desk : Desk (Recorded ω)) :
    let next := rest.connected desk
    next.document.specFields = desk.document.specFields ∧
      next.document.statusFields = desk.document.statusFields ∧
      next.document.kind = desk.document.kind := by
  obtain ⟨-, -, same⟩ := rest.connected_keeps desk
  exact ⟨topLevelFields_congr (same "spec" (by simp)),
    topLevelFields_congr (same "status" (by simp)), optionalString_congr (same "kind" (by simp))⟩

theorem connected_precedes (desk : Desk (Recorded ω)) :
    desk.trail.Precedes (rest.connected desk).trail :=
  ⟨(rest.connected_keeps desk).1, (rest.connected_states desk).2.1⟩

variable {desk : Desk (Recorded ω)} {definition : Definition} {client : Client}

/-- An observation that reaches the backend looks at the external resource. -/
theorem observe_eq_assess (reaches : rest.Reaches desk definition client) :
    let act := rest.assess (ω := Recorded ω) definition.descriptor client
    answer rest.handler.observe desk = answer act (rest.connected desk) ∧
      (final rest.handler.observe desk).trail = (final act (rest.connected desk)).trail ∧
      ∀ kind, (final rest.handler.observe desk).drifts kind =
        (final act (rest.connected desk)).drifts kind := by
  let announced := final (rest.handling.announce "observe") desk
  have announces : answer (rest.handling.announce "observe") desk =
      .ok (rest.handling.kindOf desk.document) := rfl
  have found : answer rest.connect announced = .ok (definition, client) := reaches
  refine ⟨?_, ?_, fun kind => ?_⟩
  · refine (rest.handling.answer_measured rest.observeResource announces).trans ?_
    rw [observeResource_eq]
    exact answer_bind_ok found _
  · refine (rest.handling.trail_measured rest.observeResource announces).trans ?_
    rw [observeResource_eq]
    exact congrArg Desk.trail (final_bind_ok found _)
  · have measured : (final rest.handler.observe desk).drifts kind =
        (final rest.observeResource announced).drifts kind := by
      change (final (rest.handling.measured "observe" rest.observeResource) desk).drifts kind = _
      rw [Handling.measured_eq, final_bind_ok announces, final_bind_ok (answer_attempt ..),
        final_bind_ok (Handling.answer_conclude ..), final_ofExcept, final_attempt]
      have concludes (outcome : Except Failure Bool) : Reconcile.Done .full
          (rest.handling.conclude (ω := Recorded ω) (rest.handling.kindOf desk.document) "observe"
            outcome) := rest.handling.done_conclude _ _ _
      exact keeps_drifts_done (concludes _) kind _
    rw [measured, observeResource_eq]
    exact congrArg (Desk.drifts kind) (final_bind_ok found _)

/-- The look of an observation ends like this, seen from the document at the start. -/
theorem observe_ends (reaches : rest.Reaches desk definition client) :
    ∃ next, Ends definition.descriptor client desk.trail (rest.connected desk)
        (answer rest.handler.observe desk) next ∧
      next.trail = (final rest.handler.observe desk).trail ∧
      ∀ kind, next.drifts kind = (final rest.handler.observe desk).drifts kind := by
  obtain ⟨answered, left, counted⟩ := rest.observe_eq_assess reaches
  have ends := rest.assess_ends definition.descriptor client (rest.connected_precedes desk)
  rw [answered, left]
  exact ⟨_, ends, rfl, fun kind => (counted kind).symm⟩

/-- An observation that says that the external resource is there had an answer in which nothing differs, and
the document tells so afterwards. -/
theorem observe_true (reaches : rest.Reaches desk definition client)
    (found : answer rest.handler.observe desk = .ok true) :
    ∃ call body, Looked definition.descriptor client (rest.connected desk) call (.ok body) ∧
      driftOf definition.descriptor call body desk.document = .ok [] ∧
      (final rest.handler.observe desk).document.Tells .available ∧
      (final rest.handler.observe desk).document.object.follow failedRefPath = .error .absent := by
  obtain ⟨next, ends, left, -⟩ := rest.observe_ends reaches
  obtain ⟨spec, -, -⟩ := rest.connected_states desk
  rw [found] at ends
  cases ends with
  | @available call body status now _ looked fits stated told _ =>
      rw [left, statusFields_trail] at told
      rw [driftOf_congr definition.descriptor call body spec] at fits
      refine ⟨call, body, looked, fits, tells_of_conveys told (conveys_madeAvailable _ _), ?_⟩
      rw [failedRefPath, follow_status told, get?_madeAvailable_failedRef]

/-- An observation says that there is no external resource exactly when it cannot search for one,
or does not find the one that it asks for. -/
theorem observe_false_iff (reaches : rest.Reaches desk definition client) :
    answer rest.handler.observe desk = .ok false ↔
      desk.document.hasIdentifier definition.descriptor.identifiers = .ok false ∧
          Call.verbFor? .findBy definition.descriptor.verbs = none ∨
        ∃ call failure,
          Looked definition.descriptor client (rest.connected desk) call (.error failure) ∧
            failure.isNotFound = true := by
  have known : (rest.connected desk).document.hasIdentifier definition.descriptor.identifiers =
      desk.document.hasIdentifier definition.descriptor.identifiers := by
    rw [hasIdentifier, (rest.connected_states desk).2.1]
    rfl
  rw [← known]
  constructor
  · intro absent
    obtain ⟨next, ends, -, -⟩ := rest.observe_ends reaches
    rw [absent] at ends
    cases ends with
    | absent missing _ => exact missing
  · intro missing
    exact (rest.observe_eq_assess reaches).1.trans (rest.assess_of_missing missing)

/-- An observation that says that there is no external resource does not touch the observed state. -/
theorem observe_false (reaches : rest.Reaches desk definition client)
    (absent : answer rest.handler.observe desk = .ok false) :
    (final rest.handler.observe desk).document.object.follow ["status"] =
        desk.document.object.follow ["status"] ∧
      (final rest.handler.observe desk).statusWrites = desk.statusWrites := by
  obtain ⟨next, ends, left, -⟩ := rest.observe_ends reaches
  obtain ⟨unwritten, -, same⟩ := rest.connected_keeps desk
  rw [absent] at ends
  cases ends with
  | absent _ unchanged =>
      rw [left] at unchanged
      refine ⟨?_, (congrArg Trail.statusWrites unchanged).trans unwritten⟩
      exact (congrArg (fun trail => trail.object.follow ["status"]) unchanged).trans
        (same "status" (by simp))

/-- An observation that fails with a difference had an answer with this difference, which was counted once,
and did not touch the readiness. -/
theorem observe_drift (fair : ClusterFair ω) (reaches : rest.Reaches desk definition client)
    (reserves : ∀ name ∈ ["conditions", "failedObjectRef"],
      name ∉ definition.descriptor.identifiers) {fields : List String}
    (failed : answer rest.handler.observe desk = .error (.drift fields)) :
    let after := final rest.handler.observe desk
    ∃ call body, Looked definition.descriptor client (rest.connected desk) call (.ok body) ∧
      driftOf definition.descriptor call body desk.document = .ok fields ∧ fields ≠ [] ∧
      after.drifts desk.document.kind = desk.drifts desk.document.kind + 1 ∧
      ∀ path ∈ [conditionsPath, failedRefPath],
        after.document.object.follow path = desk.document.object.follow path := by
  dsimp only
  obtain ⟨next, ends, left, counts⟩ := rest.observe_ends reaches
  obtain ⟨spec, state, kind⟩ := rest.connected_states desk
  rw [failed] at ends
  cases ends with
  | @drifted call body status _ _ looked differs differing counted stated told _ =>
      rw [left, statusFields_trail] at told
      rw [kind, counts, (rest.connected_keeps desk).2.1] at counted
      rw [driftOf_congr definition.descriptor call body spec] at differs
      have kept {name : String} (reserved : name ∈ ["conditions", "failedObjectRef"]) :
          (final rest.handler.observe desk).document.object.follow ["status", name] =
            desk.document.object.follow ["status", name] := by
        rw [follow_status told, follow_status (state.symm.trans stated), looked.identifiers,
          get?_noted_of_not_mem (reserves name reserved)]
      refine ⟨call, body, looked, differs, differing, counted, ?_⟩
      simp only [List.forall_mem_cons]
      exact ⟨kept (by simp), kept (by simp), by simp⟩
  | unseen plain _ => exact absurd rfl (plain fields)
  | unjudged _ plain _ => exact absurd rfl (ne_drift_of_plain (plain fair) fields)

/-- After the backend was asked, the observed state at hand is the one that the cluster was shown last. -/
theorem observe_synced (reaches : rest.Reaches desk definition client) {call : Call}
    {result : Except Failure Value}
    (looked : Looked definition.descriptor client (rest.connected desk) call result)
    (finite : ∀ body, result = .ok body → FiniteNumbers body definition.descriptor.identifiers) :
    let after := final rest.handler.observe desk
    desk.trail.Synced after.trail ∨
      ∃ failure, answer rest.handler.observe desk = .error failure ∧
        after.trail.Unplaced ω failure := by
  dsimp only
  obtain ⟨next, ends, left, -⟩ := rest.observe_ends reaches
  obtain ⟨status, stated⟩ := looked.statusFields
  have fresh := (rest.connected_precedes desk).synced stated
  rw [← left]
  generalize answer rest.handler.observe desk = outcome at ends ⊢
  cases ends with
  | available _ _ _ _ synced => exact .inl synced
  | drifted _ _ _ _ _ _ synced => exact .inl synced
  | absent _ unchanged => exact .inl (unchanged ▸ fresh)
  | unseen _ unchanged => exact .inl (unchanged ▸ fresh)
  | @unjudged seen body failure _ saw _ ending =>
      obtain ⟨rfl, rfl⟩ := looked.unique saw
      rcases ending with ⟨name, own, textless⟩ | synced | unplaced
      · rw [saw.identifiers] at own
        exact absurd textless ((finite body rfl).statedText?_ne_error own failure)
      · exact .inl synced
      · exact .inr ⟨failure, rfl, unplaced⟩

/-- How an observation that reaches the backend ends.  It says that the external resource is there only if
the call answered and nothing differs, and then the document tells so; it says that there is none exactly
when it cannot be searched for or was not found, and does not touch the observed state then; a difference is
counted once, and leaves the readiness alone.  Once the backend was asked, the observed state at hand is the
one that the cluster was shown last, unless the resource is not found in the cluster. -/
theorem observe_outcome (fair : ClusterFair ω) (reaches : rest.Reaches desk definition client)
    (reserves : ∀ name ∈ ["conditions", "failedObjectRef"],
      name ∉ definition.descriptor.identifiers) :
    let descriptor := definition.descriptor
    let asked := rest.connected desk
    let outcome := answer rest.handler.observe desk
    let after := final rest.handler.observe desk
    (outcome = .ok true →
        ∃ call body, Looked descriptor client asked call (.ok body) ∧
          driftOf descriptor call body desk.document = .ok [] ∧
          after.document.Tells .available ∧
          after.document.object.follow failedRefPath = .error .absent) ∧
      (outcome = .ok false ↔
        desk.document.hasIdentifier descriptor.identifiers = .ok false ∧
            Call.verbFor? .findBy descriptor.verbs = none ∨
          ∃ call failure, Looked descriptor client asked call (.error failure) ∧
            failure.isNotFound = true) ∧
      (outcome = .ok false →
        after.document.object.follow ["status"] = desk.document.object.follow ["status"] ∧
          after.statusWrites = desk.statusWrites) ∧
      (∀ fields, outcome = .error (.drift fields) →
        ∃ call body, Looked descriptor client asked call (.ok body) ∧
          driftOf descriptor call body desk.document = .ok fields ∧ fields ≠ [] ∧
          after.drifts desk.document.kind = desk.drifts desk.document.kind + 1 ∧
          ∀ path ∈ [conditionsPath, failedRefPath],
            after.document.object.follow path = desk.document.object.follow path) ∧
      ∀ call result, Looked descriptor client asked call result →
        (∀ body, result = .ok body → FiniteNumbers body descriptor.identifiers) →
        desk.trail.Synced after.trail ∨
          ∃ failure, outcome = .error failure ∧ after.trail.Unplaced ω failure :=
  ⟨rest.observe_true reaches, rest.observe_false_iff reaches, rest.observe_false reaches,
    fun _ => rest.observe_drift fair reaches reserves, fun _ _ => rest.observe_synced reaches⟩

end Observing

end RestHandling

/-- A world whose cluster serves every kind and stores observed states, whose backend answers every request
with an empty body, and which holds every chart. -/
structure Obliging where
  /-- The time of day. -/
  time : String

instance : World Obliging where
  cluster
    | .replaceStatus _ _ _ body, world => (.ok body, world)
    | .discoverKind .., world => (.ok "repos", world)
    | _, world => (.error .kindNotServed, world)
  wire _ world := (.ok (.ofUtf8 200 [] none ""), world)
  chart
    | .info _, world => (.ok ⟨"charts/repo", "", ""⟩, world)
    | .render .., world => (.ok [], world)
    | .find .., world => (.ok (), world)
    | .install .., world => (.ok (), world)
    | .uninstall _, world => (.ok (), world)
  file _ _ := .error .absent
  wallClock world := world.time
  steadyClock _ := .whole 0
  freshId world := ("0", world)

theorem clusterFair_obliging : ClusterFair Obliging := by
  intro α call world
  cases call <;> first | exact impartial_ok _ | exact impartial_error rfl

namespace RestHandling

/-- The description of a backend that can be asked for a single resource. -/
def repoApi : Description :=
  ⟨.ofFields
    [("servers", .list [.ofFields [("url", .text "http://backend")]]),
      ("paths", .ofFields [("/repo", .ofFields [("get", .ofFields
        [("responses", .ofFields [("200", .map [])])])])])], "api.yaml"⟩

/-- The descriptor of resources that can only be looked at. -/
def repoDescriptor : Descriptor :=
  ⟨"Repo", ["id"], [⟨"get", "GET", "/repo", []⟩], [], []⟩

/-- The setup with a fixed descriptor. -/
def repoHandling : RestHandling where
  handling := ⟨defaultKind, .standard false⟩
  definitions := .fixed "api.yaml" "descriptor.yaml" false
  timeout := .whole 20
  logsRequests := false

/-- The definition of the resources. -/
def repoDefinition : Definition :=
  ⟨"api.yaml", repoDescriptor, none, false⟩

/-- The client of their backend. -/
def repoClient : Client :=
  ⟨repoApi, "http://backend", none, .whole 20, false⟩

/-- A resource whose identifier is known. -/
def repoObject : Value :=
  .ofFields
    [("apiVersion", .text "sample.example.org/v1alpha1"), ("kind", .text "Repo"),
      ("metadata", .ofFields [("name", .text "demo"), ("namespace", .text "default")]),
      ("spec", .ofFields [("organization", .text "acme")]),
      ("status", .ofFields [("id", .text "7")])]

/-- The desk on which the resource is observed. -/
def repoDesk : Desk (Recorded Obliging) :=
  ⟨⟨⟨⟨"1970-01-01T00:00:00Z"⟩, []⟩, .start .critical false, ⟨true, false⟩,
      ⟨.whole 60, [("api.yaml", ⟨some repoApi, .whole 0⟩)]⟩, some repoDescriptor⟩,
    .ofObject repoObject⟩

/-- The resource is there and as desired, which it tells afterwards. -/
theorem observe_outcome_repo :
    repoHandling.Reaches repoDesk repoDefinition repoClient ∧
      answer repoHandling.handler.observe repoDesk = .ok true ∧
      (final repoHandling.handler.observe repoDesk).document.Tells .available := by
  have reaches : repoHandling.Reaches repoDesk repoDefinition repoClient := rfl
  have found : answer repoHandling.handler.observe repoDesk = .ok true := rfl
  have outcome := repoHandling.observe_outcome clusterFair_obliging reaches (by decide)
  obtain ⟨_, _, -, -, tells, -⟩ := outcome.1 found
  exact ⟨reaches, found, tells⟩

end RestHandling

end Reconciler
