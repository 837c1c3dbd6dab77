import Reconciler.Proofs.Backend.Outcomes
import Reconciler.Proofs.Controller.Writes
import Reconciler.Proofs.Reconciliation.Availability
import Reconciler.Proofs.Reconciliation.Inspection
import Reconciler.Proofs.Reconciliation.Observation

/-!
# Steadiness

A controller watches the resources that it writes, so an observation that writes the observed state calls
for the next one.  Once an observation has found the external resource, another one that sees the same
comes to rest: it writes nothing, whatever the time.
-/

namespace Reconciler

open Document

/-- An observation comes to rest: it says that the external resource is there, writes no observed state,
and leaves the one at hand as it is. -/
def ComesToRest {ω : Type} (observe : Reconcile (Recorded ω) Bool) (desk : Desk (Recorded ω)) : Prop :=
  answer observe desk = .ok true ∧ (final observe desk).statusWrites = desk.statusWrites ∧
    (final observe desk).document.object.follow ["status"] = desk.document.object.follow ["status"]

section Resting

variable {ω : Type} {desk : Desk (Recorded ω)} {status : Fields} {found : Option (ObjectRef × Failure)}

/-- A document that tells what was found has an observed state. -/
theorem follow_status_of_settled (stated : desk.trail.statusFields = .ok status)
    (settled : Settled found status) : desk.document.object.follow ["status"] = .ok (.map status) := by
  obtain ⟨readiness, items, conditions, -⟩ := settled.conveys
  rcases topLevelFields_eq_ok_iff.mp stated with ⟨-, rfl⟩ | there
  · contradiction
  · exact there

theorem comesToRest_of_settled {observe : Reconcile (Recorded ω) Bool}
    (stated : desk.trail.statusFields = .ok status) (settled : Settled found status)
    (answered : answer observe desk = .ok true)
    (kept : (final observe desk).trail.statusFields = .ok status)
    (unwritten : (final observe desk).statusWrites = desk.statusWrites) : ComesToRest observe desk :=
  ⟨answered, unwritten,
    (follow_status_of_settled kept settled).trans (follow_status_of_settled stated settled).symm⟩

end Resting

namespace RestHandling

variable {ω : Type} [World ω] (rest : RestHandling) {desk : Desk (Recorded ω)}

/-- The backend is reached again, and its answer shows what the document at hand tells: no difference, and
the identifiers that are known. -/
structure Confirms (desk : Desk (Recorded ω)) (definition : Definition) (client : Client) (call : Call)
    (body : Value) : Prop where
  /-- The backend is reached. -/
  reaches : rest.Reaches desk definition client
  /-- The backend answers. -/
  looked : Looked definition.descriptor client (rest.connected desk) call (.ok body)
  /-- Nothing differs. -/
  fits : driftOf definition.descriptor call body desk.document = .ok []
  /-- The identifiers that the answer states are known. -/
  known : ∀ name ∈ call.identifiers, ∀ outcome, statedText? body name = some outcome →
    ∃ text, outcome = .ok text ∧ desk.document.object.follow ["status", name] = .ok (.text text)

/-- An observation that says that the external resource is there leaves a document that tells so. -/
theorem observe_settles
    (proper : ∀ status, desk.document.statusFields = .ok status → (Value.map status).Proper)
    (seen : answer rest.handler.observe desk = .ok true) :
    ∃ status, (final rest.handler.observe desk).trail.statusFields = .ok status ∧
      (Value.map status).Proper ∧ Settled none status := by
  have announces : answer (rest.handling.announce "observe") desk =
      .ok (rest.handling.kindOf desk.document) := rfl
  have observed := (rest.handling.answer_measured rest.observeResource announces).symm.trans seen
  rw [observeResource_eq] at observed
  obtain ⟨⟨definition, client⟩, reaches, -⟩ := ok_of_answer_bind observed
  obtain ⟨next, ends, left, -⟩ := rest.observe_ends reaches
  rw [seen] at ends
  cases ends with
  | @available call body status now _ looked _ stated told _ =>
      have stated : desk.document.statusFields = .ok status :=
        (rest.connected_states desk).2.1.symm.trans stated
      refine ⟨telling none now (noted body call.identifiers status), left ▸ told, ?_,
        settled_telling none _ _⟩
      exact proper_telling none now (proper_noted (proper status stated) _ _)

theorem settle_settled {status : Fields} (stated : desk.trail.statusFields = .ok status)
    (proper : (Value.map status).Proper) (settled : Settled none status) :
    let act := rest.settle (ω := Recorded ω)
    answer act desk = .ok true ∧ (final act desk).trail.statusFields = .ok status ∧
      (final act desk).statusWrites = desk.statusWrites := by
  obtain ⟨kept, left, same⟩ := tell_settled stated proper settled
  have read : answer (ofExcept desk.document.statusFields : Reconcile (Recorded ω) Fields) desk =
      .ok status := (answer_ofExcept _ desk).trans stated
  have parts : rest.settle (ω := Recorded ω) = (do
      let observed ← ofExcept (← Desk.current).statusFields
      let _ ← (do
        Handling.tell none
        Handling.persistStatus (some (.map observed)))
      rest.handling.logDebug "External resource up to date" []
      pure true) := by
    simp only [settle, Handling.tell, bind_assoc]
  have tail : Keeps Desk.trail (do
      rest.handling.logDebug "External resource up to date" []
      pure true : Reconcile (Recorded ω) Bool) :=
    keeps_bind (keeps_done (Handling.done_logStep _ _ _ _ _ _)) fun _ => keeps_pure true
  dsimp only
  rw [parts, answer_current_bind, final_current_bind, answer_bind_ok read, final_bind_ok read,
    final_ofExcept, answer_bind_ok kept, final_bind_ok kept, Desk.statusWrites, tail]
  exact ⟨rfl, left, congrArg (fun session => Trail.statusWrites ⟨_, Session.writes session⟩) same⟩

/-- An answer that shows what the document tells is judged without a write. -/
theorem judge_settled {descriptor : Descriptor} {call : Call} {body : Value} {status : Fields}
    (stated : desk.trail.statusFields = .ok status) (proper : (Value.map status).Proper)
    (settled : Settled none status)
    (known : ∀ name ∈ call.identifiers, ∀ outcome, statedText? body name = some outcome →
      ∃ text, outcome = .ok text ∧ status.get? name = some (.text text))
    (fits : driftOf descriptor call body desk.document = .ok []) :
    let act := rest.judge (ω := Recorded ω) descriptor call body status
    answer act desk = .ok true ∧ (final act desk).trail.statusFields = .ok status ∧
      (final act desk).statusWrites = desk.statusWrites := by
  -- What the answer states stands there already, so that neither snapshot differs from what follows it.
  let taken : Desk (Recorded ω) :=
    { desk with document := final (writeIdentifiers call.identifiers body) desk.document }
  have unchanged : noted body call.identifiers status = status := by
    refine noted_of_get? fun name own text states => ?_
    obtain ⟨other, same, there⟩ := known name own _ states
    rw [there, Except.ok.inj same]
  have wrote : answer (Desk.edit (writeIdentifiers call.identifiers body)) desk = .ok () ∧
      taken.document.statusFields = .ok status := by
    rw [answer_edit]
    have at_hand : desk.document.statusFields = .ok status := stated
    rcases writeIdentifiers_cases at_hand call.identifiers body with
      ⟨answered, left⟩ | ⟨name, own, failure, states, -⟩
    · exact ⟨answered, unchanged ▸ left⟩
    · obtain ⟨_, impossible, -⟩ := known name own _ states
      contradiction
  obtain ⟨kept, same⟩ := persistStatus_kept wrote.2 proper.unchanged
  have took : answer (takeIn (ω := Recorded ω) call body status) desk = .ok () ∧
      final (takeIn (ω := Recorded ω) call body status) desk = taken := by
    unfold takeIn
    rw [answer_bind_ok wrote.1, final_bind_ok wrote.1, final_edit, answer_bind_ok kept,
      final_bind_ok kept, same]
    exact ⟨rfl, rfl⟩
  have compared : answer (rest.compare descriptor call body) taken = .ok () ∧
      final (rest.compare (ω := Recorded ω) descriptor call body) taken = taken := by
    have spec := (takeIn_keeps call body status desk).1
    rw [took.2] at spec
    rw [compare_eq, answer_current_bind, final_current_bind,
      driftOf_congr descriptor call body spec, fits]
    exact ⟨rfl, rfl⟩
  have still : taken.trail.statusFields = .ok status := wrote.2
  obtain ⟨settles, left, silent⟩ := rest.settle_settled still proper settled
  dsimp only [judge]
  rw [answer_bind_ok took.1, final_bind_ok took.1, took.2, answer_bind_ok compared.1,
    final_bind_ok compared.1, compared.2]
  exact ⟨settles, left, silent⟩

/-- An observation whose answer shows what the document tells comes to rest. -/
theorem comesToRest {definition : Definition} {client : Client} {call : Call} {body : Value}
    {status : Fields} (confirms : rest.Confirms desk definition client call body)
    (stated : desk.trail.statusFields = .ok status) (proper : (Value.map status).Proper)
    (settled : Settled none status) : ComesToRest rest.handler.observe desk := by
  obtain ⟨spec, state, -⟩ := rest.connected_states desk
  have still : (rest.connected desk).document.statusFields = .ok status := state.trans stated
  obtain ⟨next, trail, unedited, -, answered, left⟩ := rest.assess_of_looked confirms.looked still
  obtain ⟨observed, ended, -⟩ := rest.observe_eq_assess confirms.reaches
  have known (name : String) (own : name ∈ call.identifiers) (outcome : Except Failure String)
      (states : statedText? body name = some outcome) :
      ∃ text, outcome = .ok text ∧ status.get? name = some (.text text) := by
    obtain ⟨text, same, there⟩ := confirms.known name own outcome states
    have at_hand : desk.document.statusFields = .ok status := stated
    rw [follow_status at_hand] at there
    refine ⟨text, same, ?_⟩
    cases found : status.get? name with
    | none => simp [found] at there
    | some value => simpa [found] using there
  have fits : driftOf definition.descriptor call body next.document = .ok [] := by
    rw [unedited, driftOf_congr definition.descriptor call body spec]
    exact confirms.fits
  have stands : next.trail.statusFields = .ok status := by
    rw [trail]
    exact still
  obtain ⟨settles, kept, silent⟩ := rest.judge_settled stands proper settled known fits
  rw [left] at ended
  refine comesToRest_of_settled stated settled (observed.trans (answered.trans settles)) ?_ ?_
  · rw [ended]
    exact kept
  · calc (final rest.handler.observe desk).statusWrites
      _ = (final (rest.judge definition.descriptor call body status) next).statusWrites :=
        congrArg Trail.statusWrites ended
      _ = next.statusWrites := silent
      _ = (rest.connected desk).statusWrites := congrArg Trail.statusWrites trail
      _ = desk.statusWrites := (rest.connected_keeps desk).1

end RestHandling

namespace ChartHandling

variable {ω : Type} [World ω] (chart : ChartHandling) {desk later : Desk (Recorded ω)}

/-- Two observations see the same: the manifest that is rendered is the same, and so are the answers of the
cluster afterwards. -/
structure SeesSame (desk later : Desk (Recorded ω)) (manifest : List UInt8)
    (related : Recorded ω → Recorded ω → Prop) : Prop where
  /-- The first observation renders the manifest. -/
  first : ∃ release before, chart.Renders desk release before manifest
  /-- The other observation renders it too. -/
  second : ∃ release before, chart.Renders later release before manifest
  /-- The cluster answers reads alike in related worlds. -/
  alike : ReadsAlike related
  /-- The worlds are related when the manifests are rendered. -/
  same : Session.Related related (chart.rendered desk).session (chart.rendered later).session

/-- An observation that says that the release is there leaves a document that tells what was found. -/
theorem observe_settles
    (proper : ∀ status, desk.document.statusFields = .ok status → (Value.map status).Proper)
    (seen : answer chart.handler.observe desk = .ok true) :
    ∃ release before manifest found status, chart.Renders desk release before manifest ∧
      answer (inspect release manifest) (chart.rendered desk) = .ok found ∧
      (final chart.handler.observe desk).trail.statusFields = .ok status ∧
      (Value.map status).Proper ∧ Settled found status := by
  obtain ⟨release, before, manifest, found, renders, inspected⟩ := chart.exists_inspected seen
  obtain ⟨stated, -⟩ := chart.renderRelease_states renders
  obtain ⟨next, unedited, -, ended⟩ := chart.observe_eq_conclude renders inspected
  have there : next.trail.statusFields = .ok before := by
    rw [unedited]
    exact stated
  obtain ⟨now, told⟩ := chart.conclude_tells there before found
  refine ⟨release, before, manifest, found, _, renders, inspected, ended ▸ told, ?_,
    settled_telling found now before⟩
  exact proper_telling found now (proper before stated)

/-- An observation that finds what the document tells comes to rest. -/
theorem comesToRest {release : Release} {before status : Fields} {manifest : List UInt8}
    {found : Option (ObjectRef × Failure)} (renders : chart.Renders desk release before manifest)
    (inspected : answer (inspect release manifest) (chart.rendered desk) = .ok found)
    (stated : desk.trail.statusFields = .ok status) (proper : (Value.map status).Proper)
    (settled : Settled found status) : ComesToRest chart.handler.observe desk := by
  obtain ⟨there, -⟩ := chart.renderRelease_states renders
  obtain rfl : before = status := Except.ok.inj (there.symm.trans stated)
  obtain ⟨next, unedited, answered, ended⟩ := chart.observe_eq_conclude renders inspected
  have still : next.trail.statusFields = .ok before := by
    rw [unedited]
    exact stated
  obtain ⟨settles, kept, silent⟩ := chart.conclude_settled still proper settled
  refine comesToRest_of_settled stated settled (answered.trans settles) (ended ▸ kept) ?_
  exact (congrArg Trail.statusWrites ended).trans
    (silent.trans (congrArg Trail.statusWrites unedited))

/-- What was found is found again. -/
theorem inspect_again {release other : Release} {before again : Fields} {manifest : List UInt8}
    {related : Recorded ω → Recorded ω → Prop} (sees : chart.SeesSame desk later manifest related)
    (resumed : later.document = (final chart.handler.observe desk).document)
    (first : chart.Renders desk release before manifest)
    (second : chart.Renders later other again manifest) :
    answer (inspect other manifest) (chart.rendered later) =
      answer (inspect release manifest) (chart.rendered desk) := by
  have place : (final chart.handler.observe desk).document.namespace_ = desk.document.namespace_ := by
    have run : Trail.Run (handledPaths []) desk.trail (final chart.handler.observe desk).trail :=
      chart.handling.run_measured "observe" (chart.trails_observeRelease _)
    exact optionalString_congr (Trail.Run.follow_eq run (by decide))
  refine (inspect_alike sees.alike sees.same ?_ manifest).symm
  rw [(chart.renderRelease_states first).2, (chart.renderRelease_states second).2]
  change desk.document.namespace_ = later.document.namespace_
  rw [resumed, place]

end ChartHandling

namespace Backing

variable {ω : Type} [World ω]

/-- An observation sees again what an earlier one saw, on the document that the earlier one left. -/
def SeesAgain (backing : Backing) (desk later : Desk (Recorded ω)) : Prop :=
  match backing with
  | .rest setup => ∃ definition client call body, setup.Confirms later definition client call body
  | .chart setup => ∃ manifest related, setup.SeesSame desk later manifest related

/-- Once an observation has said that the external resource is there, another one that sees the same on
the document that it left comes to rest, whatever happened to the world and its clock in between.  The
conditions that the observed state held at first may be of any form. -/
theorem observe_comesToRest (backing : Backing) {desk later : Desk (Recorded ω)}
    (proper : ∀ status, desk.document.statusFields = .ok status → (Value.map status).Proper)
    (seen : answer backing.handler.observe desk = .ok true)
    (resumed : later.document = (final backing.handler.observe desk).document)
    (again : backing.SeesAgain desk later) : ComesToRest backing.handler.observe later := by
  cases backing with
  | rest setup =>
      obtain ⟨definition, client, call, body, confirms⟩ := again
      obtain ⟨status, left, kept, settled⟩ := setup.observe_settles proper seen
      have stated : later.trail.statusFields = .ok status := by
        rw [statusFields_trail, resumed]
        exact left
      exact setup.comesToRest confirms stated kept settled
  | chart setup =>
      obtain ⟨manifest, related, sees⟩ := again
      obtain ⟨release, before, rendered, found, status, renders, inspected, left, kept, settled⟩ :=
        setup.observe_settles proper seen
      -- The first observation inspected the manifest that both of them render.
      obtain ⟨_, _, first⟩ := sees.first
      obtain ⟨other, still, second⟩ := sees.second
      have same := Option.some.inj (Except.ok.inj (renders.symm.trans first))
      simp only [Prod.mk.injEq] at same
      obtain ⟨rfl, rfl, rfl⟩ := same
      have stated : later.trail.statusFields = .ok status := by
        rw [statusFields_trail, resumed]
        exact left
      have found_again := (setup.inspect_again sees resumed renders second).trans inspected
      exact setup.comesToRest second found_again stated kept settled

end Backing

/-! ## A day later -/

theorem Document.eq_of_isSame {doc other : Document} (same : doc.object.isSame other.object = true)
    (uid : doc.originUid = other.originUid) : doc = other := by
  cases doc
  cases other
  exact congrArg₂ Document.mk (Value.eq_of_isSame same) uid

/-- A world whose cluster holds every object as ready and stores observed states, whose backend answers every
request with one resource, and which renders every chart to the same objects. -/
structure Steady where
  /-- The time of day. -/
  time : String

namespace Steady

/-- The characters of the backend's answer: the identifier as a number, and a field of the desired state. -/
def answerChars : List Char :=
  ['{', '"', 'i', 'd', '"', ':', '7', ',', '"', 'o', 'r', 'g', 'a', 'n', 'i', 'z', 'a', 't', 'i', 'o', 'n',
    '"', ':', '"', 'a', 'c', 'm', 'e', '"', '}']

/-- The backend's answer. -/
def response : HttpResponse :=
  .ofUtf8 200 (answerChars.map fun c => UInt8.ofNat c.toNat) none ""

/-- What the answer decodes to. -/
def body : Value :=
  .map [(.text "id", .int 7), (.text "organization", .text "acme")]

instance : World Steady where
  cluster
    | .get .., world => (.ok Surroundings.readyObject, world)
    | .replaceStatus _ _ _ body, world => (.ok body, world)
    | .discoverKind _ kind, world => (.ok kind, world)
    | _, world => (.error .kindNotServed, world)
  wire _ world := (.ok response, world)
  chart
    | .info _, world => (.ok ⟨"charts/repo", "", ""⟩, world)
    | .render .., world => (.ok Surroundings.threeParts, world)
    | .find .., world => (.ok (), world)
    | .install .., world => (.ok (), world)
    | .uninstall _, world => (.ok (), world)
  file _ _ := .error .absent
  wallClock world := world.time
  steadyClock _ := .whole 0
  freshId world := ("0", world)

/-- The resource behind a backend, and behind a release. -/
def repo : Backing :=
  .rest RestHandling.repoHandling

@[inherit_doc repo]
def release : Backing :=
  .chart (.ofRecorder (.standard false))

/-- A desk at some time. -/
def desk (time : String) (object : Value) : Desk (Recorded Steady) :=
  ⟨{ RestHandling.repoDesk.session with world := ⟨⟨time⟩, []⟩ }, .ofObject object⟩

/-- The desk on which the resource is observed at first. -/
def firstDesk : Desk (Recorded Steady) :=
  desk "1970-01-01T00:00:00Z" RestHandling.repoObject

/-- The resource as the first observation leaves it. -/
def settledRepo : Value :=
  .ofFields
    [("apiVersion", .text "sample.example.org/v1alpha1"), ("kind", .text "Repo"),
      ("metadata", .ofFields [("name", .text "demo"), ("namespace", .text "default")]),
      ("spec", .ofFields [("organization", .text "acme")]),
      ("status", .ofFields [("id", .text "7"), ("conditions", .list [.ofFields [("type", .text "Ready"),
        ("status", .text "True"), ("reason", .text "Available"), ("message", .text ""),
        ("lastTransitionTime", .text "1970-01-01T00:00:00Z")]])])]

/-- The desk on which it is observed a day later. -/
def laterDesk : Desk (Recorded Steady) :=
  desk "1970-01-02T00:00:00Z" settledRepo

theorem proper_firstDesk (status : Fields) (stated : firstDesk.document.statusFields = .ok status) :
    (Value.map status).Proper := by
  obtain rfl : [(.text "id", .text "7")] = status := Except.ok.inj stated
  exact Value.Proper.nil.set "id" (.text "7")

theorem seen_repo : answer repo.handler.observe firstDesk = .ok true :=
  ok_of_toOption (by decide +kernel)

theorem seen_release : answer release.handler.observe firstDesk = .ok true :=
  ok_of_toOption (by decide +kernel)

theorem resumed_repo : laterDesk.document = (final repo.handler.observe firstDesk).document :=
  eq_of_isSame (by decide +kernel) (by decide +kernel)

theorem resumed_release : laterDesk.document = (final release.handler.observe firstDesk).document :=
  eq_of_isSame (by decide +kernel) (by decide +kernel)

theorem decoded_response : Client.decoded response = .ok body := by
  have read : Json.readChars answerChars = .ok body := rfl
  exact Client.decoded_ofUtf8 (by decide) (by rfl) read

theorem answer_get (session : Session (Recorded Steady)) :
    answer (RestHandling.repoClient.performBound (.single .get) "/repo" .empty) session = .ok body := by
  have allowed : RestHandling.repoApi.validateRequest "GET" "/repo" [] [] = .ok () := rfl
  have declared : RestHandling.repoApi.successCodes "GET" "/repo" = .ok [200] := rfl
  have outcome : (World.wire (.send (RestHandling.repoClient.httpRequest (Text.upper "GET") "/repo" .empty))
      session.world).1 = .ok response := rfl
  exact (Client.answer_send_of_declared session RestHandling.repoClient "GET" "/repo" .empty allowed declared
    (by simp) outcome rfl).trans decoded_response

/-- The identifier and the field that the backend states are those of the resource. -/
theorem seesAgain_repo : repo.SeesAgain firstDesk laterDesk := by
  refine ⟨RestHandling.repoDefinition, RestHandling.repoClient, _, body, rfl,
    ⟨⟨true, rfl, rfl⟩, .empty, rfl, answer_get _⟩, rfl, ?_⟩
  intro name own outcome states
  obtain rfl := List.mem_singleton.mp own
  obtain rfl : .ok "7" = outcome := Option.some.inj states
  exact ⟨"7", rfl, rfl⟩

theorem seesAgain_release : release.SeesAgain firstDesk laterDesk := by
  refine ⟨Surroundings.threeParts, fun _ _ => True, ⟨_, _, rfl⟩, ⟨_, _, rfl⟩, ?_, rfl, trivial⟩
  intro _ _ _ _ call _ _
  cases call <;> exact ⟨rfl, trivial⟩

end Steady

namespace Backing

open Steady

/-- A day later, nothing is written about a resource that is still there, and nothing about a release whose
objects are. -/
theorem observe_comesToRest_repo :
    repo.SeesAgain firstDesk laterDesk ∧ ComesToRest repo.handler.observe laterDesk ∧
      release.SeesAgain firstDesk laterDesk ∧ ComesToRest release.handler.observe laterDesk :=
  ⟨seesAgain_repo, repo.observe_comesToRest proper_firstDesk seen_repo resumed_repo seesAgain_repo,
    seesAgain_release,
    release.observe_comesToRest proper_firstDesk seen_release resumed_release seesAgain_release⟩

end Backing

end Reconciler
