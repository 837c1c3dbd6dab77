import Reconciler.Proofs.Backend.Addresses
import Reconciler.Proofs.Reconciliation.Observation
import Reconciler.Proofs.Session.Wire

/-!
# Which external resource a request is for

Looking, updating and deleting each send one request at most: that of a declared call for the document at
hand, with the values that the document gives to the parameters of the path.
-/

namespace Reconciler

open Reconcile (Done)

/-- The requests that were sent so far. -/
def Desk.sent {ω : Type} (desk : Desk (Recorded (Tapped ω))) : List HttpRequest :=
  desk.session.sent

section Sending

variable {ω α β : Type} [World ω]

/-- Work that sends no requests leaves their record as it is. -/
theorem keeps_sent {may : Permit} {act : Reconcile (Recorded (Tapped ω)) α} (done : Done may act)
    (silent : may.sends = false) : Keeps Desk.sent act := by
  refine done.keeps fun _ _ part => ?_
  cases part with
  | inSession made =>
      intro desk
      rw [final_inSession]
      exact Tapped.keeps_made made silent desk.session
  | current => exact fun _ => rfl
  | edit allowed change => exact fun desk => by rw [final_edit]; rfl

/-- An announced and counted action sends what it sends itself. -/
theorem Handling.sent_measured (handling : Handling) (name : String)
    (act : Reconcile (Recorded (Tapped ω)) α) (desk : Desk (Recorded (Tapped ω))) :
    (final (handling.measured name act) desk).sent = desk.sent ∨
      (final (handling.measured name act) desk).sent =
        (final act (final (handling.announce name) desk)).sent := by
  have announces : Done ⟨false, false, false, false⟩
    (handling.announce (ω := Recorded (Tapped ω)) name) := handling.done_announce name
  have concludes (kind : String) (outcome : Except Failure α) : Done ⟨false, false, false, false⟩
    (handling.conclude (ω := Recorded (Tapped ω)) kind name outcome) :=
      handling.done_conclude kind name outcome
  rw [measured_eq]
  cases told : answer (handling.announce name) desk with
  | error failure => exact .inl (by rw [final_bind, told]; exact keeps_sent announces rfl desk)
  | ok kind =>
      rw [final_bind_ok told]
      refine .inr ((view_final_bind Desk.sent (fun outcome => ?_) _).trans ?_)
      · exact keeps_bind (keeps_sent (concludes kind outcome) rfl) fun _ =>
          keeps_ofExcept outcome
      · rw [final_attempt]

end Sending

namespace RestHandling

/-- The method under which a resolved call is sent. -/
def sentMethod (call : Call) : String :=
  Text.upper (BoundCall.ofCall call).method

/-- The request over the wire that a call makes of values. -/
def sentRequest (client : Client) (call : Call) (request : Request) : HttpRequest :=
  client.httpRequest (sentMethod call) call.path request

/-- A call of one of a few actions is declared, the fields of a document are bound into its request, and
the description of the backend allows it. -/
structure Addresses (descriptor : Descriptor) (client : Client) (actions : List Action)
    (doc : Document) (call : Call) (request : Request) : Prop where
  /-- The call is declared. -/
  declared : ∃ action ∈ actions, Call.resolve client.description descriptor action = .ok call
  /-- The request is built of the fields of the document. -/
  built : requestFor call doc = .ok request
  /-- The request is allowed. -/
  allowed : client.description.validateRequest (sentMethod call) call.path request.path.names
    request.query.names = .ok ()

section Working

variable {ω α β : Type} [World ω] {descriptor : Descriptor} {client : Client} {actions : List Action}
  {act : Reconcile (Recorded (Tapped ω)) α} {next : α → Reconcile (Recorded (Tapped ω)) β}

/-- Work sends nothing, or the request of a declared call for the document at hand. -/
def SendsFor (descriptor : Descriptor) (client : Client) (actions : List Action)
    (act : Reconcile (Recorded (Tapped ω)) α) : Prop :=
  ∀ desk, (final act desk).sent = desk.sent ∨
    ∃ call request, Addresses descriptor client actions desk.document call request ∧
      (final act desk).sent = desk.sent ++ [sentRequest client call request]

omit [World ω] in
theorem sendsFor_of_keeps (kept : Keeps Desk.sent act) : SendsFor descriptor client actions act :=
  fun desk => .inl (kept desk)

omit [World ω] in
theorem SendsFor.then (sends : SendsFor descriptor client actions act)
    (kept_next : ∀ a, Keeps Desk.sent (next a)) : SendsFor descriptor client actions (act >>= next) := by
  intro desk
  rw [view_final_bind Desk.sent kept_next]
  exact sends desk

/-- Work that neither sends nor edits may come first. -/
theorem sendsFor_after (done : Done ⟨false, false, false, false⟩ act)
    (sends : ∀ desk a, answer act desk = .ok a → SendsFor descriptor client actions (next a)) :
    SendsFor descriptor client actions (act >>= next) := by
  intro desk
  have unsent : (final act desk).sent = desk.sent := keeps_sent done rfl desk
  have unedited : (final act desk).document = desk.document := keeps_document done rfl desk
  rw [final_bind]
  cases answered : answer act desk with
  | error failure => exact .inl unsent
  | ok a =>
      have following := sends desk a answered (final act desk)
      rwa [unsent, unedited] at following

/-- A bound call for the document at hand sends its own request, if it is allowed. -/
theorem sendsFor_request {call : Call}
    (declared : ∃ action ∈ actions, Call.resolve client.description descriptor action = .ok call)
    {next : Request → Reconcile (Recorded (Tapped ω)) α}
    (performs : ∀ request desk, (final (next request) desk).sent =
      (final (client.performBound (.ofCall call) call.path request) desk.session).sent) :
    SendsFor descriptor client actions (do
      let request ← ofExcept (requestFor call (← Desk.current))
      next request) := by
  intro desk
  rw [final_current_bind]
  cases built : requestFor call desk.document with
  | error failure => exact .inl rfl
  | ok request =>
      have bound : final (ofExcept (.ok request) >>= next) desk = final (next request) desk := rfl
      rw [bound, performs]
      rcases client.sent_performBound (.ofCall call) call.path request desk.session with
        unsent | ⟨allowed, sent⟩
      · exact .inl unsent
      · exact .inr ⟨call, request, ⟨declared, built, allowed⟩, sent⟩

theorem sendsFor_makeCall {call : Call}
    (declared : ∃ action ∈ actions, Call.resolve client.description descriptor action = .ok call) :
    SendsFor descriptor client actions (makeCall (ω := Recorded (Tapped ω)) client call) := by
  rw [makeCall_eq]
  exact sendsFor_request declared fun request desk => by rw [final_inSession]; rfl

variable (rest : RestHandling)

theorem sendsFor_lookAt {call : Call}
    (declared : ∃ action ∈ actions, Call.resolve client.description descriptor action = .ok call) :
    SendsFor descriptor client actions (rest.lookAt (ω := Recorded (Tapped ω)) client call) := by
  rw [lookAt_eq]
  refine sendsFor_request declared fun request desk => ?_
  refine (view_final_bind Desk.sent (fun outcome => ?_) desk).trans ?_
  · cases outcome with
    | ok body => exact keeps_pure _
    | error failure =>
        have missed : Done ⟨false, false, false, false⟩
          (rest.handling.logDebug (ω := Recorded (Tapped ω)) "External resource not found"
            [(.text "action", .text call.action.text)]) := Handling.done_logStep _ _ _ _ _ _
        dsimp only
        split
        · exact keeps_bind (keeps_sent missed rfl) fun _ => keeps_pure _
        · exact keeps_throw _
  · rw [final_attempt, final_inSession]
    rfl

/-- What is done with an answer sends nothing more. -/
theorem keeps_sent_judge (call : Call) (body : Value) (before : Fields) :
    Keeps Desk.sent (rest.judge (ω := Recorded (Tapped ω)) descriptor call body before) := by
  have taken : Done ⟨true, false, false, true⟩
      (takeIn (ω := Recorded (Tapped ω)) call body before) :=
    .bind (.part (.edit rfl _)) fun _ => .bind (Handling.done_persistStatus rfl rfl _) fun _ => .pure _
  have settled : Done ⟨true, false, false, true⟩ (rest.settle (ω := Recorded (Tapped ω))) :=
    done_current fun _ => .bind (.ofExcept _) fun _ => .bind (Handling.done_setAvailable rfl) fun _ =>
      .bind (Handling.done_persistStatus rfl rfl _) fun _ =>
        .bind (Handling.done_logStep _ _ _ _ _ _) fun _ => .pure _
  have compared : Keeps Desk.sent (rest.compare (ω := Recorded (Tapped ω)) descriptor call body) :=
    rest.keeps_compare_of
      (fun done => keeps_sent done (rfl : Permit.sends ⟨false, false, false, false⟩ = false))
      (fun _ _ => rfl) descriptor call body
  exact keeps_bind (keeps_sent taken rfl) fun _ => keeps_bind compared fun _ =>
    keeps_sent settled rfl

theorem sendsFor_assess :
    SendsFor descriptor client [.get, .findBy]
      (rest.assess (ω := Recorded (Tapped ω)) descriptor client) := by
  refine sendsFor_after (.part .current) fun _ doc _ => ?_
  refine sendsFor_after (.ofExcept _) fun _ before _ => ?_
  refine sendsFor_after (rest.done_lookup client descriptor) fun desk found answered => ?_
  cases found with
  | none => exact sendsFor_of_keeps (keeps_pure _)
  | some call =>
      obtain ⟨isKnown, resolved⟩ := rest.resolve_of_lookup answered
      have declared : ∃ action ∈ [Action.get, Action.findBy],
          Call.resolve client.description descriptor action = .ok call :=
        ⟨_, by cases isKnown <;> simp, resolved⟩
      refine (rest.sendsFor_lookAt declared).then fun seen => ?_
      cases seen with
      | none => exact keeps_pure _
      | some body => exact rest.keeps_sent_judge call body before

theorem requestFor_congr {doc other : Document} (status : doc.statusFields = other.statusFields)
    (spec : doc.specFields = other.specFields) (call : Call) :
    requestFor call doc = requestFor call other := by
  rw [requestFor, requestFor, status, spec]

/-- Work with the definition of a document and a client of its backend sends what it sends for the
document. -/
theorem sent_connected {work : Definition × Client → Reconcile (Recorded (Tapped ω)) α}
    (sends : ∀ definition client,
      SendsFor definition.descriptor client actions (work (definition, client)))
    (desk : Desk (Recorded (Tapped ω))) :
    (final (rest.connect >>= work) desk).sent = desk.sent ∨
      ∃ definition client call request, answer rest.connect desk = .ok (definition, client) ∧
        Addresses definition.descriptor client actions desk.document call request ∧
        (final (rest.connect >>= work) desk).sent =
          desk.sent ++ [sentRequest client call request] := by
  have connects : Done ⟨true, true, false, true⟩ (rest.connect (ω := Recorded (Tapped ω))) :=
    rest.done_connect rfl rfl rfl
  have unsent : (final rest.connect desk).sent = desk.sent := keeps_sent connects rfl desk
  rw [final_bind]
  cases connected : answer rest.connect desk with
  | error failure => exact .inl unsent
  | ok found =>
      obtain ⟨definition, client⟩ := found
      have status : (final rest.connect desk).document.statusFields = desk.document.statusFields :=
        Document.topLevelFields_congr (rest.follow_connect desk (by simp))
      have spec : (final rest.connect desk).document.specFields = desk.document.specFields :=
        Document.topLevelFields_congr (rest.follow_connect desk (by simp))
      rcases sends definition client (final rest.connect desk) with kept | ⟨call, request, asked, sent⟩
      · exact .inl (kept.trans unsent)
      · rw [unsent] at sent
        have built := (requestFor_congr status spec call).symm.trans asked.built
        exact .inr ⟨definition, client, call, request, rfl, { asked with built }, sent⟩

/-- An action sends nothing, or one request: that of a declared call for the document at the start, with a
definition and a client that are found for it. -/
def Asks (name : String) (actions : List Action) (act : Reconcile (Recorded (Tapped ω)) α) : Prop :=
  ∀ desk, (final act desk).sent = desk.sent ∨
    ∃ definition client call request,
      answer rest.connect (final (rest.handling.announce name) desk) = .ok (definition, client) ∧
      Addresses definition.descriptor client actions desk.document call request ∧
      (final act desk).sent = desk.sent ++ [sentRequest client call request]

theorem asks_measured (name : String) {act : Reconcile (Recorded (Tapped ω)) α}
    (sends : ∀ desk, (final act desk).sent = desk.sent ∨
      ∃ definition client call request, answer rest.connect desk = .ok (definition, client) ∧
        Addresses definition.descriptor client actions desk.document call request ∧
        (final act desk).sent = desk.sent ++ [sentRequest client call request]) :
    rest.Asks name actions (rest.handling.measured name act) := by
  intro desk
  let announced := final (rest.handling.announce name) desk
  have announces : Done ⟨false, false, false, false⟩
    (rest.handling.announce (ω := Recorded (Tapped ω)) name) := rest.handling.done_announce name
  have unsent : announced.sent = desk.sent := keeps_sent announces rfl desk
  have unedited : announced.document = desk.document := keeps_document announces rfl desk
  rcases rest.handling.sent_measured name act desk with kept | same
  · exact .inl kept
  · rw [same, ← unsent, ← unedited]
    exact sends announced

theorem asks_observe :
    rest.Asks "observe" [.get, .findBy] (rest.handler (ω := Recorded (Tapped ω))).observe := by
  refine rest.asks_measured "observe" ?_
  rw [observeResource_eq]
  exact rest.sent_connected fun definition client => rest.sendsFor_assess

theorem asks_update :
    rest.Asks "update" [.update] (rest.handler (ω := Recorded (Tapped ω))).update := by
  refine rest.asks_measured "update" (rest.sent_connected fun definition client => ?_)
  refine sendsFor_after (.part .current) fun _ doc _ => ?_
  refine sendsFor_after (.ofExcept _) fun _ before _ => ?_
  refine sendsFor_after (.ofExcept _) fun desk call answered => ?_
  have declared := (answer_ofExcept _ desk).symm.trans answered
  refine (sendsFor_makeCall ⟨.update, by simp, declared⟩).then fun body => ?_
  have told : Done ⟨true, false, false, true⟩ (do
      Desk.edit (Document.writeIdentifiers call.identifiers body)
      let _ ← Handling.persistStatus (some (.map before))
      inSession (rest.handling.recorder.updated (← Desk.current))
      rest.handling.logStep .info "External resource updated" "update" "Updated" [] :
        Reconcile (Recorded (Tapped ω)) Unit) :=
    .bind (.part (.edit rfl _)) fun _ => .bind (Handling.done_persistStatus rfl rfl _) fun _ =>
      done_current fun doc => .bind (done_inSession (.part (.emit _ doc _ _ _))) fun _ =>
        Handling.done_logStep _ _ _ _ _ _
  exact keeps_sent told rfl

theorem sent_removeResource (desk : Desk (Recorded (Tapped ω))) :
    (final rest.removeResource desk).sent = desk.sent ∨
      ∃ definition client call request, answer rest.connect desk = .ok (definition, client) ∧
        Addresses definition.descriptor client [.delete] desk.document call request ∧
        (final rest.removeResource desk).sent = desk.sent ++ [sentRequest client call request] := by
  refine rest.sent_connected (fun definition client => ?_) desk
  refine sendsFor_after (.ofExcept _) fun desk call answered => ?_
  have declared := (answer_ofExcept _ desk).symm.trans answered
  refine (sendsFor_makeCall ⟨.delete, by simp, declared⟩).then fun _ => ?_
  have told : Done ⟨false, false, false, false⟩ (do
      inSession (rest.handling.recorder.deleted (← Desk.current))
      rest.handling.logStep .info "External resource deleted" "delete" "Deleted" [] :
        Reconcile (Recorded (Tapped ω)) Unit) :=
    done_current fun doc => .bind (done_inSession (.part (.emit _ doc _ _ _))) fun _ =>
      Handling.done_logStep _ _ _ _ _ _
  exact keeps_sent told rfl

theorem asks_delete :
    rest.Asks "delete" [.delete] (rest.handler (ω := Recorded (Tapped ω))).delete := by
  refine rest.asks_measured "delete" fun desk => ?_
  have released : Done ⟨true, false, false, true⟩
    (Handling.releaseDocument (ω := Recorded (Tapped ω))) := Handling.done_releaseDocument rfl rfl
  have same : (final rest.deleteResource desk).sent = (final rest.removeResource desk).sent := by
    refine (view_final_bind Desk.sent (fun outcome => ?_) desk).trans (by rw [final_attempt])
    have logged (failure : Failure) : Done ⟨false, false, false, false⟩
        (rest.handling.logRelease (ω := Recorded (Tapped ω))
          "Deleting external resource failed, releasing finalizer" failure) :=
      Handling.done_logStep _ _ _ _ _ _
    cases outcome with
    | ok _ => exact keeps_sent released rfl
    | error failure =>
        dsimp only
        split
        · exact keeps_bind (keeps_sent (logged failure) rfl) fun _ => keeps_sent released rfl
        · exact keeps_bind (keeps_throw _) fun _ => keeps_sent released rfl
  rw [same]
  exact rest.sent_removeResource desk

/-- Looking, updating and deleting send one request at most, for the document at the start.  Each path
parameter of a request has a text that is not empty exactly when no such parameter gets its text from a
field whose text is empty.  Where no field has the name of a path parameter, the request is refused and
nothing is sent. -/
theorem asks_filled_iff (rest : RestHandling) :
    (rest.Asks "observe" [.get, .findBy] (rest.handler (ω := Recorded (Tapped ω))).observe ∧
      rest.Asks "update" [.update] (rest.handler (ω := Recorded (Tapped ω))).update ∧
      rest.Asks "delete" [.delete] (rest.handler (ω := Recorded (Tapped ω))).delete) ∧
    (∀ descriptor client actions doc call request,
      Addresses descriptor client actions doc call request →
        ∃ status spec, doc.statusFields = .ok status ∧ doc.specFields = .ok spec ∧
          (client.Fills (sentMethod call) call.path request ↔
            client.Worded (sentMethod call) call status spec)) ∧
    ∀ (client : Client) call status spec request parameters,
      call.request status spec = .ok request →
      client.description.parameters (sentMethod call) call.path = .ok parameters →
      (∃ p ∈ parameters, p.isIn "path" = true ∧ ¬call.Supplies status spec p.name) →
        ∀ session : Session (Recorded (Tapped ω)), ∃ fault,
          answer (client.performBound (.ofCall call) call.path request) session =
              .error (.validation fault) ∧
            (final (client.performBound (.ofCall call) call.path request) session).sent =
              session.sent := by
  refine ⟨⟨rest.asks_observe, rest.asks_update, rest.asks_delete⟩, ?_, ?_⟩
  · intro descriptor client actions doc call request addressed
    obtain ⟨status, stated, built⟩ := ok_of_bind addressed.built
    obtain ⟨spec, desired, built⟩ := ok_of_bind built
    exact ⟨status, spec, stated, desired, Client.fills_iff_worded built addressed.allowed⟩
  · rintro client call status spec request parameters built declared ⟨p, listed, placed, unsupplied⟩
    intro session
    have absent : p.name ∉ request.path.names := fun held =>
      unsupplied ((Call.mem_names_of_request built).1.mp held).2
    obtain ⟨fault, refused⟩ := Description.validateRequest_of_absent declared listed placed absent
    obtain ⟨failed, untouched⟩ := client.performBound_of_refused (.ofCall call) call.path request
      refused session
    exact ⟨fault, failed, congrArg Session.sent untouched⟩

end Working

/-! ## A document whose identifier is empty -/

/-- The description of a backend in which a single resource can be deleted. -/
def removableApi : Description :=
  ⟨.ofFields
    [("servers", .list [.ofFields [("url", .text "http://backend")]]),
      ("paths", .ofFields [("/repos/\x7bid\x7d", .ofFields [("delete", .ofFields
        [("parameters", .list [.map (Call.requiredIn "path" "id")]),
          ("responses", .ofFields [("204", .map [])])])])])], "api.yaml"⟩

/-- The descriptor of the resources. -/
def removableDescriptor : Descriptor :=
  ⟨"Repo", ["id"], [⟨"delete", "DELETE", "/repos/\x7bid\x7d", []⟩], [], []⟩

/-- The client of their backend. -/
def removableClient : Client :=
  ⟨removableApi, "http://backend", none, .whole 20, false⟩

/-- The call that deletes one. -/
def removableCall : Call :=
  { action := .delete, kind := .delete, method := "DELETE", path := "/repos/\x7bid\x7d"
    pathNames := ["id"], queryNames := [], bodyNames := [], identifiers := ["id"], renames := [] }

/-- A document with an identifier in its observed state. -/
def removableObject (id : String) : Value :=
  .ofFields
    [("apiVersion", .text "sample.example.org/v1alpha1"), ("kind", .text "Repo"),
      ("metadata", .ofFields [("name", .text "demo"), ("namespace", .text "default")]),
      ("status", .ofFields [("id", .text id)])]

/-- The desk on which its external resource is deleted. -/
def removableDesk (id : String) : Desk (Recorded (Tapped Obliging)) :=
  ⟨⟨⟨⟨⟨"1970-01-01T00:00:00Z"⟩, []⟩, []⟩, .start .critical false, ⟨true, false⟩,
      ⟨.whole 60, [("api.yaml", ⟨some removableApi, .whole 0⟩)]⟩, some removableDescriptor⟩,
    .ofObject (removableObject id)⟩

/-- With an identifier the path is filled in, and without one nothing is sent. -/
theorem asks_filled_repo :
    removableClient.Fills "DELETE" "/repos/\x7bid\x7d" ⟨[("id", "7")], [], []⟩ ∧
      ∃ fault, answer (removableClient.performBound (.single .delete) removableCall.path .empty)
        (removableDesk "").session = .error (.validation fault) := by
  obtain ⟨-, filled_iff, refused⟩ := asks_filled_iff (ω := Obliging) repoHandling
  constructor
  · have addressed : Addresses removableDescriptor removableClient [.delete]
        (.ofObject (removableObject "7")) removableCall ⟨[("id", "7")], [], []⟩ :=
      ⟨⟨.delete, by simp, rfl⟩, rfl, rfl⟩
    obtain ⟨status, spec, stated, desired, filled_iff⟩ := filled_iff _ _ _ _ _ _ addressed
    obtain rfl : [(.text "id", .text "7")] = status := Except.ok.inj stated
    obtain rfl : [] = spec := Except.ok.inj desired
    refine filled_iff.mpr fun parameters declared p listed placed field last => ?_
    obtain rfl : [⟨"id", "path", Call.requiredIn "path" "id"⟩] = parameters := Except.ok.inj declared
    obtain rfl := List.mem_singleton.mp listed
    obtain rfl : (.text "id", .text "7") = field := Option.some.inj last
    exact fun empty => absurd (Except.ok.inj empty) (by decide)
  · have unsupplied : ¬removableCall.Supplies [] [] "id" := by simp [Call.Supplies]
    obtain ⟨fault, failed, -⟩ := refused removableClient removableCall [] [] .empty _ rfl rfl
      ⟨⟨"id", "path", Call.requiredIn "path" "id"⟩, List.mem_singleton.mpr rfl, rfl, unsupplied⟩
      (removableDesk "").session
    exact ⟨fault, failed⟩

set_option maxRecDepth 4000 in
/-- With an identifier that is empty, the request goes to the address of all resources. -/
theorem not_fills_empty :
    (final repoHandling.handler.delete (removableDesk "")).sent =
        [sentRequest removableClient removableCall ⟨[("id", "")], [], []⟩] ∧
      (sentRequest removableClient removableCall ⟨[("id", "")], [], []⟩).url =
        "http://backend/repos/" ∧
      ¬removableClient.Fills "DELETE" "/repos/\x7bid\x7d" ⟨[("id", "")], [], []⟩ := by
  refine ⟨rfl, rfl, fun filled => ?_⟩
  obtain ⟨text, bound, filled⟩ := filled _ rfl ⟨"id", "path", Call.requiredIn "path" "id"⟩
    (List.mem_singleton.mpr rfl) rfl
  exact filled (Option.some.inj bound).symm

end RestHandling

end Reconciler
