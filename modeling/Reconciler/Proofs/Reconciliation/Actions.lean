import Reconciler.Proofs.Reconciliation.Handling

/-!
# What the actions of handlers do to a document

Each action edits the document at hand only where the operator keeps its finalizer, the owners, and the
part of the observed state that it reports: the conditions, the object that is waited for, and the
identifiers of the external resource, whose names are those of the definition.
-/

namespace Reconciler

/-- The paths at which a handler edits a document, where identifiers have some names. -/
def Document.handledPaths (identifiers : List String) : List (List String) :=
  finalizersPath :: ownersPath :: statusPaths identifiers

section Handled

variable {identifiers : List String}

theorem Document.finalizersPath_handled : finalizersPath ∈ handledPaths identifiers := by
  simp [handledPaths]

theorem Document.ownersPath_handled : ownersPath ∈ handledPaths identifiers := by
  simp [handledPaths]

theorem Document.conditionsPath_handled : conditionsPath ∈ handledPaths identifiers := by
  simp [handledPaths, statusPaths]

theorem Document.failedRefPath_handled : failedRefPath ∈ handledPaths identifiers := by
  simp [handledPaths, statusPaths]

theorem Document.identifier_handled {name : String} (own : name ∈ identifiers) :
    ["status", name] ∈ handledPaths identifiers := by
  simp [handledPaths, statusPaths, own]

end Handled

/-- A call identifies the external resource by the names that the descriptor gives. -/
theorem Call.identifiers_of_resolve {description : Description} {descriptor : Descriptor}
    {action : Action} {call : Call} (resolved : resolve description descriptor action = .ok call) :
    call.identifiers = descriptor.identifiers := by
  unfold resolve at resolved
  split at resolved
  next verb _ =>
    obtain ⟨kind, -, resolved⟩ := ok_of_bind resolved
    obtain ⟨names, -, resolved⟩ := ok_of_bind resolved
    dsimp only at resolved
    split at resolved
    · obtain ⟨bodyNames, -, resolved⟩ := ok_of_bind resolved
      exact congrArg Call.identifiers (Except.ok.inj resolved.symm)
    · exact congrArg Call.identifiers (Except.ok.inj resolved.symm)
  next => contradiction

namespace RestHandling

variable {ω : Type} [World ω] (rest : RestHandling)

/-- The names of the identifiers in the definition of the document at hand. -/
def identifiersAt (desk : Desk ω) : List String :=
  match answer (Definition.resolve rest.definitions desk.document) desk.session with
  | .ok definition => definition.descriptor.identifiers
  | .error _ => []

theorem identifiersAt_of_connect {desk : Desk ω} {definition : Definition} {client : Client}
    (connected : answer rest.connect desk = .ok (definition, client)) :
    rest.identifiersAt desk = definition.descriptor.identifiers := by
  obtain ⟨resolved, at_hand, connected⟩ := ok_of_answer_bind connected
  obtain rfl : desk.document = resolved := Except.ok.inj at_hand
  obtain ⟨resolved, found, connected⟩ := ok_of_answer_bind connected
  have opened {s : Desk ω} (answered : answer (do
      let description ← inSession (Description.loadOnce resolved.url rest.timeout)
      let client ← ofExcept (Client.ofDescription description none resolved.credentials
        rest.timeout (resolved.isVerbose || rest.logsRequests))
      pure (resolved, client)) s = .ok (definition, client)) : resolved = definition := by
    obtain ⟨description, -, answered⟩ := ok_of_answer_bind answered
    obtain ⟨opened, -, answered⟩ := ok_of_answer_bind answered
    exact congrArg Prod.fst (Except.ok.inj answered)
  have same : resolved = definition := by
    dsimp only at connected
    split at connected
    · obtain ⟨_, -, connected⟩ := ok_of_answer_bind connected
      exact opened connected
    · exact opened connected
  rw [inSession, answer_within] at found
  unfold identifiersAt
  rw [show answer (Definition.resolve rest.definitions desk.document) desk.session = _ from found,
    same]

theorem trails_connect : Trails [Document.ownersPath] (rest.connect (ω := Recorded ω)) := by
  have opened (definition : Definition) : Trails [Document.ownersPath] (do
      let description ← inSession (Description.loadOnce definition.url rest.timeout)
      let client ← ofExcept (Client.ofDescription description none definition.credentials
        rest.timeout (definition.isVerbose || rest.logsRequests))
      pure (definition, client) : Reconcile (Recorded ω) (Definition × Client)) := by
    have loaded := keeps_done (ω := ω)
      (done_inSession (Description.made_loadOnce rfl definition.url rest.timeout))
    refine Keeps.proceeds (keeps_bind loaded fun _ => ?_)
    exact keeps_bind (keeps_ofExcept _) fun _ => keeps_pure _
  refine proceeds_bind keeps_current.proceeds fun doc => ?_
  have resolved := keeps_done (ω := ω)
    (done_inSession (Definition.made_resolve rfl rest.definitions doc))
  refine proceeds_bind resolved.proceeds fun definition => ?_
  dsimp only
  split
  · refine proceeds_bind (trails_adopt (by simp) _) fun _ => opened definition
  · exact opened definition

/-! ## Calls to the backend -/

/-- A comparison keeps what its reports do not show in. -/
theorem keeps_compare_of {γ : Type} {view : Desk ω → γ} {may : Permit}
    (quiet : ∀ {α : Type} {act : Reconcile ω α}, Reconcile.Done may act → Keeps view act)
    (counted : ∀ kind, Keeps view (count (.drifts kind) : Reconcile ω Unit))
    (descriptor : Descriptor) (call : Call) (body : Value) :
    Keeps view (rest.compare descriptor call body) := by
  refine keeps_bind (quiet (.part .current)) fun doc => keeps_bind (keeps_ofExcept _) fun spec => ?_
  refine keeps_bind (keeps_ofExcept _) fun drifted => ?_
  split
  · refine keeps_bind (quiet (.part .current)) fun doc => keeps_bind (counted _) fun _ => ?_
    refine keeps_bind (quiet (done_inSession (.part (.emit _ doc _ _ _)))) fun _ => ?_
    exact keeps_bind (quiet (Handling.done_logStep _ _ _ _ _ _)) fun _ => keeps_throw _
  · exact keeps_pure _

theorem keeps_compare (descriptor : Descriptor) (call : Call) (body : Value) :
    Keeps Desk.trail (rest.compare (ω := Recorded ω) descriptor call body) :=
  rest.keeps_compare_of keeps_done
    (fun _ => keeps_trail (Recorded.detached_writes.keeps_count rfl)) descriptor call body

omit [World ω] in
/-- The call that looks at the external resource is declared for a look or for a search. -/
theorem resolve_of_lookup {client : Client} {descriptor : Descriptor} {call : Call}
    {desk : Desk ω} (found : answer (rest.lookup client descriptor) desk = .ok (some call)) :
    ∃ isKnown : Bool,
      Call.resolve client.description descriptor (if isKnown then .get else .findBy) = .ok call := by
  obtain ⟨doc, -, found⟩ := ok_of_answer_bind found
  obtain ⟨isKnown, -, found⟩ := ok_of_answer_bind found
  dsimp only at found
  split at found
  next resolved =>
    obtain rfl := Option.some.inj (Except.ok.inj found)
    exact ⟨isKnown, resolved⟩
  next =>
    split at found
    · obtain ⟨_, thrown, -⟩ := ok_of_answer_bind found
      contradiction
    · obtain ⟨_, -, found⟩ := ok_of_answer_bind found
      simp at found
  next => contradiction

omit [World ω] in
theorem identifiers_of_lookup {client : Client} {descriptor : Descriptor} {call : Call}
    {desk : Desk ω} (found : answer (rest.lookup client descriptor) desk = .ok (some call)) :
    call.identifiers = descriptor.identifiers := by
  obtain ⟨_, resolved⟩ := rest.resolve_of_lookup found
  exact Call.identifiers_of_resolve resolved

/-! ## Actions -/

/-- What is done with the definition of a document and a client of its backend edits the document where
that definition says. -/
theorem run_connected {α : Type} {work : Definition × Client → Reconcile (Recorded ω) α}
    (trails : ∀ connected,
      Trails (Document.handledPaths connected.1.descriptor.identifiers) (work connected))
    (desk : Desk (Recorded ω)) :
    Trail.Run (Document.handledPaths (rest.identifiersAt desk)) desk.trail
      (final (rest.connect >>= work) desk).trail := by
  refine proceeds_bind_at (Trail.Run.mono ?_ (rest.trails_connect desk)) fun connected answered => ?_
  · simp [Document.ownersPath_handled]
  · rw [rest.identifiersAt_of_connect answered]
    exact trails connected _

omit [World ω] in
theorem trails_writeIdentifiers {call : Call} {descriptor : Descriptor}
    (same : call.identifiers = descriptor.identifiers) (body : Value) :
    Trails (Document.handledPaths descriptor.identifiers)
      (Desk.edit (ω := Recorded ω) (Document.writeIdentifiers call.identifiers body)) := by
  rw [same]
  exact trails_edit (Document.touches_writeIdentifiers (fun _ => Document.identifier_handled) body)

theorem run_observeResource (desk : Desk (Recorded ω)) :
    Trail.Run (Document.handledPaths (rest.identifiersAt desk)) desk.trail
      (final rest.observeResource desk).trail := by
  refine rest.run_connected (fun (definition, client) => ?_) desk
  refine proceeds_bind keeps_current.proceeds fun doc => ?_
  refine proceeds_bind (keeps_ofExcept _).proceeds fun before => ?_
  intro desk
  refine proceeds_bind_at ((keeps_done (rest.done_lookup _ _)).proceeds desk) fun found answered => ?_
  cases found with
  | none => exact (keeps_pure _).proceeds _
  | some call =>
      have same := rest.identifiers_of_lookup answered
      refine proceeds_bind (keeps_done (rest.done_lookAt rfl rfl client call)).proceeds (fun seen => ?_) _
      cases seen with
      | none => exact (keeps_pure _).proceeds
      | some body =>
          refine proceeds_bind (trails_writeIdentifiers same body) fun _ => ?_
          refine proceeds_bind (trails_persistStatus _) fun _ => ?_
          refine proceeds_bind (rest.keeps_compare _ call body).proceeds fun _ => ?_
          refine proceeds_bind keeps_current.proceeds fun doc => ?_
          refine proceeds_bind (keeps_ofExcept _).proceeds fun observed => ?_
          refine proceeds_bind (trails_setAvailable Document.conditionsPath_handled
            Document.failedRefPath_handled) fun _ => ?_
          refine proceeds_bind (trails_persistStatus _) fun _ => ?_
          exact proceeds_bind (keeps_done (Handling.done_logStep _ _ _ _ _ _)).proceeds fun _ =>
            (keeps_pure _).proceeds

theorem run_createResource (desk : Desk (Recorded ω)) :
    Trail.Run (Document.handledPaths (rest.identifiersAt desk)) desk.trail
      (final rest.createResource desk).trail := by
  refine rest.run_connected (fun (definition, client) => ?_) desk
  refine proceeds_bind keeps_current.proceeds fun doc => ?_
  refine proceeds_bind (keeps_ofExcept _).proceeds fun before => ?_
  intro desk
  refine proceeds_bind_at ((keeps_ofExcept _).proceeds desk) fun call answered => ?_
  have same := Call.identifiers_of_resolve ((answer_ofExcept _ desk).symm.trans answered)
  refine proceeds_bind keeps_current.proceeds (fun doc => ?_) _
  refine proceeds_bind (keeps_ofExcept _).proceeds fun spec => ?_
  refine proceeds_bind (keeps_ofExcept _).proceeds fun request => ?_
  have performed := keeps_done (ω := ω)
    (done_inSession (Client.made_performBound rfl rfl client (.ofCall call) call.path request))
  refine proceeds_bind performed.proceeds fun body => ?_
  refine proceeds_bind (trails_writeIdentifiers same body) fun _ => ?_
  refine proceeds_bind (trails_setReady Document.conditionsPath_handled _) fun _ => ?_
  refine proceeds_bind (trails_persistStatus _) fun _ => ?_
  refine (keeps_done (done_current fun doc => ?_)).proceeds
  exact .bind (done_inSession (.part (.emit _ doc _ _ _))) fun _ =>
    Handling.done_logStep _ _ _ _ _ _

theorem run_updateResource (desk : Desk (Recorded ω)) :
    Trail.Run (Document.handledPaths (rest.identifiersAt desk)) desk.trail
      (final rest.updateResource desk).trail := by
  refine rest.run_connected (fun (definition, client) => ?_) desk
  refine proceeds_bind keeps_current.proceeds fun doc => ?_
  refine proceeds_bind (keeps_ofExcept _).proceeds fun before => ?_
  intro desk
  refine proceeds_bind_at ((keeps_ofExcept _).proceeds desk) fun call answered => ?_
  have same := Call.identifiers_of_resolve ((answer_ofExcept _ desk).symm.trans answered)
  refine proceeds_bind (keeps_done (done_makeCall rfl rfl client call)).proceeds (fun body => ?_) _
  refine proceeds_bind (trails_writeIdentifiers same body) fun _ => ?_
  refine proceeds_bind (trails_persistStatus _) fun _ => ?_
  refine (keeps_done (done_current fun doc => ?_)).proceeds
  exact .bind (done_inSession (.part (.emit _ doc _ _ _))) fun _ =>
    Handling.done_logStep _ _ _ _ _ _

/-- Before the finalizer is released, only the owners are adopted. -/
theorem trails_removeResource :
    Trails [Document.ownersPath] (rest.removeResource (ω := Recorded ω)) := by
  refine proceeds_bind rest.trails_connect fun (definition, client) => ?_
  refine proceeds_bind (keeps_ofExcept _).proceeds fun call => ?_
  refine proceeds_bind (keeps_done (done_makeCall rfl rfl client call)).proceeds fun _ => ?_
  refine (keeps_done (done_current fun doc => ?_)).proceeds
  exact .bind (done_inSession (.part (.emit _ doc _ _ _))) fun _ =>
    Handling.done_logStep _ _ _ _ _ _

theorem trails_deleteResource {identifiers : List String} :
    Trails (Document.handledPaths identifiers) (rest.deleteResource (ω := Recorded ω)) := by
  refine rest.handling.trails_removing (fun desk => ?_) Document.finalizersPath_handled
  exact Trail.Run.mono (by simp [Document.ownersPath_handled]) (rest.trails_removeResource desk)

end RestHandling

namespace ChartHandling

variable {ω : Type} [World ω] (chart : ChartHandling)

theorem trails_observeRelease :
    Trails (Document.handledPaths []) (chart.observeRelease (ω := Recorded ω)) := by
  refine proceeds_bind keeps_current.proceeds fun doc => ?_
  refine proceeds_bind (keeps_done (done_inSession (made_releaseOf rfl doc))).proceeds fun release => ?_
  refine proceeds_bind (keeps_done (done_inSession (made_hasRelease rfl release))).proceeds ?_
  intro isThere
  split
  · exact proceeds_bind (keeps_done (Handling.done_logStep _ _ _ _ _ _)).proceeds fun _ =>
      (keeps_pure _).proceeds
  · refine proceeds_bind keeps_current.proceeds fun doc => ?_
    refine proceeds_bind (keeps_ofExcept _).proceeds fun before => ?_
    refine proceeds_bind keeps_current.proceeds fun doc => ?_
    refine proceeds_bind (keeps_ofExcept _).proceeds fun values => ?_
    refine proceeds_bind (keeps_done (done_inSession (.part (.chart rfl _)))).proceeds fun manifest => ?_
    refine proceeds_bind (keeps_ofExcept _).proceeds fun refs => ?_
    refine proceeds_bind (keeps_done (done_inSession (made_firstUnavailable _))).proceeds fun found => ?_
    cases found with
    | some entry =>
        refine proceeds_bind (trails_edit
          (Document.touches_setField Document.failedRefPath_handled _)) fun _ => ?_
        refine proceeds_bind (trails_setReady Document.conditionsPath_handled _) fun _ => ?_
        refine proceeds_bind (trails_persistStatus _) fun _ => ?_
        exact proceeds_bind (keeps_done (Handling.done_logStep _ _ _ _ _ _)).proceeds fun _ =>
          (keeps_pure _).proceeds
    | none =>
        refine proceeds_bind (trails_setAvailable Document.conditionsPath_handled
          Document.failedRefPath_handled) fun _ => ?_
        exact proceeds_bind (trails_persistStatus _) fun _ => (keeps_pure _).proceeds

theorem keeps_installRelease : Keeps Desk.trail (installRelease (ω := Recorded ω)) :=
  keeps_done (done_installRelease rfl)

/-- A release is installed and then told about. -/
theorem trails_install {paths : List (List String)} (action : String)
    {tell : Document → Work (Recorded ω) Unit} (kept : ∀ doc, Keeps Session.writes (tell doc)) :
    Trails paths (do
      chart.handling.measured action installRelease
      inSession (tell (← Desk.current)) : Reconcile (Recorded ω) Unit) := by
  intro desk
  refine proceeds_bind_at (chart.handling.run_measured _ (keeps_installRelease.proceeds _)) ?_
  intro _ _
  exact (keeps_bind keeps_current fun doc => keeps_trail (kept doc)).proceeds _

theorem keeps_removeRelease : Keeps Desk.trail (chart.removeRelease (ω := Recorded ω)) :=
  keeps_done (chart.done_removeRelease rfl)

theorem trails_deleteRelease :
    Trails (Document.handledPaths []) (chart.deleteRelease (ω := Recorded ω)) :=
  chart.handling.trails_removing chart.keeps_removeRelease.proceeds Document.finalizersPath_handled

end ChartHandling

end Reconciler
