import Reconciler.Proofs.Reconciliation.Release
import Reconciler.Proofs.Session.Posting

/-!
# Notices do not disturb the work

A controller acts, writes and asks alike whether its notices are posted or refused by the cluster.  A
notice whose posting fails in any other way disturbs the action that it stands in.
-/

namespace Reconciler

open Reconcile (Done)

/-- Two desks have the same document at hand, in sessions that are alike. -/
def Desk.Alike {ω : Type} (d e : Desk (Posted ω)) : Prop :=
  d.session.Alike e.session ∧ d.document = e.document

/-- Two states of a controller have the same queue and know the same, in sessions that are alike. -/
structure ControlState.Alike {ω : Type} (s t : ControlState (Posted ω)) : Prop where
  /-- The sessions are alike. -/
  session : s.session.Alike t.session
  /-- The queues are the same. -/
  queue : s.queue = t.queue
  /-- The known resources are the same. -/
  known : s.known = t.known
  /-- Events are accepted in both states, or in none. -/
  isAccepting : s.isAccepting = t.isAccepting

/-! ## Actions -/

section Acting

variable {ω α : Type}

theorem respects_inSession {work : Work (Posted ω) α} (respects : Respects Session.Alike work) :
    Respects Desk.Alike (inSession work) :=
  respects_within (fun _ _ alike => alike.1) (fun _ _ alike _ _ session => ⟨session, alike.2⟩)
    respects

theorem respects_edit (change : Edit α) :
    Respects Desk.Alike (Desk.edit (ω := Posted ω) change) := by
  rintro ⟨session, document⟩ ⟨other, _⟩ ⟨alike, rfl⟩
  rw [Desk.edit, answer_within, answer_within, final_within, final_within]
  exact ⟨rfl, alike, rfl⟩

theorem respects_current : Respects Desk.Alike (Desk.current (ω := Posted ω)) :=
  fun _ _ alike => ⟨congrArg Except.ok alike.2, alike⟩

variable [World ω]

/-- No work on the document at hand can tell desks apart that are alike. -/
theorem respects_done {act : Reconcile (Posted ω) α} (done : Done .full act) :
    Respects Desk.Alike act := by
  refine done.respects fun _ _ part => ?_
  cases part with
  | inSession made => exact respects_inSession (respects_made made)
  | current => exact respects_current
  | edit allowed change => exact respects_edit change

/-- An action that is announced and counted tells apart no more than it does alone. -/
theorem respects_measured (handling : Handling) (action : String) {act : Reconcile (Posted ω) α}
    (respects : Respects Desk.Alike act) :
    Respects Desk.Alike (handling.measured action act) := by
  rw [Handling.measured_eq]
  refine respects_bind (respects_done (handling.done_announce action)) fun kind => ?_
  refine respects_bind (respects_attempt respects) fun outcome => ?_
  exact respects_bind (respects_done (handling.done_conclude kind action outcome)) fun _ =>
    respects_ofExcept outcome

end Acting

namespace RestHandling

variable {ω : Type} [World ω] (rest : RestHandling)

/-- That the external resource differs is counted, told and logged. -/
theorem respects_compare (descriptor : Descriptor) (call : Call) (body : Value) :
    Respects Desk.Alike (rest.compare (ω := Posted ω) descriptor call body) := by
  refine respects_bind respects_current fun doc => respects_bind (respects_ofExcept _) fun spec => ?_
  refine respects_bind (respects_ofExcept _) fun drifted => ?_
  split
  · refine respects_bind respects_current fun doc => ?_
    have counted : Respects Desk.Alike (count (.drifts doc.kind) : Reconcile (Posted ω) Unit) :=
      fun _ _ alike => ⟨rfl, { alike.1 with }, alike.2⟩
    refine respects_bind counted fun _ => ?_
    refine respects_bind (respects_done (done_inSession (.part (.emit _ doc _ _ _)))) fun _ => ?_
    refine respects_bind (respects_done (Handling.done_logStep _ _ _ _ _ _)) fun _ => ?_
    exact respects_ofExcept (.error _)
  · exact respects_ofExcept (.ok _)

theorem respects_observeResource :
    Respects Desk.Alike (rest.observeResource (ω := Posted ω)) := by
  refine respects_bind (respects_done (rest.done_connect rfl rfl rfl)) fun (definition, client) => ?_
  refine respects_bind respects_current fun doc => respects_bind (respects_ofExcept _) fun before => ?_
  refine respects_bind (respects_done (rest.done_lookup client _)) fun found => ?_
  cases found with
  | none => exact respects_ofExcept (.ok _)
  | some call =>
      refine respects_bind (respects_done (rest.done_lookAt rfl rfl client call)) fun seen => ?_
      cases seen with
      | none => exact respects_ofExcept (.ok _)
      | some body =>
          refine respects_bind (respects_edit _) fun _ => ?_
          refine respects_bind (respects_done (Handling.done_persistStatus rfl rfl _)) fun _ => ?_
          refine respects_bind (rest.respects_compare _ call body) fun _ => ?_
          refine respects_bind respects_current fun doc => ?_
          refine respects_bind (respects_ofExcept _) fun observed => ?_
          refine respects_bind (respects_done (Handling.done_setAvailable rfl)) fun _ => ?_
          refine respects_bind (respects_done (Handling.done_persistStatus rfl rfl _)) fun _ => ?_
          refine respects_bind (respects_done (Handling.done_logStep _ _ _ _ _ _)) fun _ => ?_
          exact respects_ofExcept (.ok _)

end RestHandling

theorem Handling.done_removing {ω : Type} [World ω] {may : Permit} (handling : Handling)
    (writes : may.writes = true) (edits : may.edits = true) {removal : Reconcile ω Unit}
    (done : Done may removal) (message : String) : Done may (handling.removing removal message) := by
  refine .bind (.attempt done) fun outcome => ?_
  cases outcome with
  | ok _ => exact done_releaseDocument writes edits
  | error failure =>
      dsimp only
      split
      · exact .bind (done_logStep _ _ _ _ _ _) fun _ => done_releaseDocument writes edits
      · exact .bind (.throw _) fun _ => done_releaseDocument writes edits

namespace Backing

variable {ω : Type} [World ω] (backing : Backing)

theorem respects_observe : Respects Desk.Alike (backing.handler (ω := Posted ω)).observe := by
  cases backing with
  | rest setup => exact respects_measured _ _ setup.respects_observeResource
  | chart setup => exact respects_measured _ _ (respects_done (setup.done_observeRelease rfl rfl rfl))

/-- A release is installed and then told about. -/
theorem respects_install (setup : ChartHandling) (action : String)
    {tell : Document → Work (Posted ω) Unit} (made : ∀ doc, Work.Made .full (tell doc)) :
    Respects Desk.Alike (do
      setup.handling.measured action ChartHandling.installRelease
      inSession (tell (← Desk.current)) : Reconcile (Posted ω) Unit) := by
  have installed := respects_done (ChartHandling.done_installRelease (ω := Posted ω) rfl)
  refine respects_bind (respects_measured _ action installed) fun _ => ?_
  exact respects_bind respects_current fun doc => respects_done (done_inSession (made doc))

theorem respects_create : Respects Desk.Alike (backing.handler (ω := Posted ω)).create := by
  cases backing with
  | rest setup => exact respects_measured _ _ (respects_done (setup.done_createResource rfl rfl rfl rfl))
  | chart setup => exact respects_install setup "create" fun doc => .part (.emit _ doc _ _ _)

theorem respects_update : Respects Desk.Alike (backing.handler (ω := Posted ω)).update := by
  cases backing with
  | rest setup => exact respects_measured _ _ (respects_done (setup.done_updateResource rfl rfl rfl rfl))
  | chart setup => exact respects_install setup "update" fun doc => .part (.emit _ doc _ _ _)

theorem respects_delete : Respects Desk.Alike (backing.handler (ω := Posted ω)).delete := by
  have removed : Done .full (backing.removal (ω := Posted ω)) := by
    cases backing with
    | rest setup => exact setup.done_removeResource rfl rfl rfl rfl
    | chart setup => exact setup.done_removeRelease rfl
  rw [delete_eq]
  exact respects_measured _ _ (respects_done (backing.handling.done_removing rfl rfl removed _))

end Backing

/-! ## Controllers -/

namespace Controller

section Dispatching

variable {ω : Type}

theorem respects_control {α : Type} {work : Work (Posted ω) α}
    (respects : Respects Session.Alike work) : Respects ControlState.Alike (inSession work) :=
  respects_within (fun _ _ alike => alike.session)
    (fun _ _ alike _ _ session => { alike with session }) respects

theorem respects_atDesk {α : Type} (doc : Document) {act : Reconcile (Posted ω) α}
    (respects : Respects Desk.Alike act) :
    Respects ControlState.Alike (Control.atDesk doc act) := by
  refine respects_control ?_
  exact respects_within (fun _ _ alike => ⟨alike, rfl⟩) (fun _ _ _ _ _ alike => alike.1) respects

theorem respects_onQueue (change : EventQueue → EventQueue) :
    Respects ControlState.Alike (Control.onQueue (ω := Posted ω) change) :=
  fun _ _ alike => ⟨rfl, { alike with queue := congrArg change alike.queue }⟩

theorem respects_controlLog (level : Level) (text : String) :
    Respects ControlState.Alike (log level text : Control (Posted ω) Unit) :=
  fun _ _ alike => ⟨rfl, { alike with session := { alike.session with } }⟩

variable [World ω] (controller : Controller (Posted ω)) (backing : Backing)

/-- What the handler of a backing does, and what follows from it, does not tell desks apart. -/
theorem respects_act (type : EventType) :
    Respects Desk.Alike ((controller.backedBy backing).act type) := by
  cases type with
  | observe =>
      refine respects_bind (respects_attempt backing.respects_observe) fun outcome => ?_
      cases outcome with
      | ok isThere => exact respects_ofExcept (.ok _)
      | error failure =>
          dsimp only
          split
          · exact respects_ofExcept (.ok _)
          · exact respects_ofExcept (.error _)
  | create => exact respects_bind backing.respects_create fun _ => respects_ofExcept (.ok _)
  | update => exact respects_bind backing.respects_update fun _ => respects_ofExcept (.ok _)
  | delete => exact respects_bind backing.respects_delete fun _ => respects_ofExcept (.ok _)

theorem respects_newEvent (type : EventType) (ref : ObjectRef) :
    Respects ControlState.Alike (Control.newEvent (ω := Posted ω) type ref) :=
  respects_bind (respects_control respects_freshId) fun _ => respects_ofExcept (.ok _)

theorem respects_follow (ref : ObjectRef) (next : FollowUp) :
    Respects ControlState.Alike (controller.follow ref next) := by
  cases next with
  | nothing => exact respects_ofExcept (.ok _)
  | update reason =>
      refine respects_bind (respects_controlLog _ _) fun _ => ?_
      exact respects_bind (respects_newEvent _ _) fun event => respects_onQueue _
  | create =>
      refine respects_bind (respects_newEvent _ _) fun event => ?_
      refine respects_bind (respects_control (respects_made (.part (.look Sight.steadyClock)))) ?_
      exact fun now => respects_onQueue _

theorem respects_dispatch (event : Event) :
    Respects ControlState.Alike ((controller.backedBy backing).dispatch event) := by
  refine respects_bind (respects_control (respects_made (made_fetch _ _))) fun found => ?_
  cases found with
  | none => exact respects_controlLog _ _
  | some doc =>
      refine respects_bind (respects_atDesk doc ?_) fun next => respects_follow _ _ next
      exact respects_bind (respects_done (done_prepare rfl rfl event.type)) fun left =>
        controller.respects_act backing left

/-- Whether notices are posted or refused by the cluster, the actions of a handler, the dispatch of an
event and the marking of a resource as failed end in the same way, leave the same document and the same
queue behind, and ask the same of others. -/
theorem undisturbed_by_refusals :
    (Respects Desk.Alike (backing.handler (ω := Posted ω)).observe ∧
      Respects Desk.Alike (backing.handler (ω := Posted ω)).create ∧
      Respects Desk.Alike (backing.handler (ω := Posted ω)).update ∧
      Respects Desk.Alike (backing.handler (ω := Posted ω)).delete) ∧
    (∀ event, Respects ControlState.Alike ((controller.backedBy backing).dispatch event)) ∧
    ∀ ref failure, Respects Session.Alike (controller.markFailed ref failure) :=
  ⟨⟨backing.respects_observe, backing.respects_create, backing.respects_update,
      backing.respects_delete⟩,
    controller.respects_dispatch backing,
    fun ref failure => respects_made (controller.made_markFailed ref rfl failure)⟩

end Dispatching

end Controller

/-- The state of a controller with other answers to notices. -/
def ControlState.judging {ω : Type} (s : ControlState (Posted ω))
    (verdict : ω → Notice → Except Failure Unit) : ControlState (Posted ω) :=
  { s with session := { s.session with world := { s.session.world with verdict } } }

/-- However the posting of every notice fails, an event is dispatched as if they were all posted. -/
def Controller.BestEffort {ω : Type} [World ω] (controller : Controller (Posted ω)) (event : Event)
    (s : ControlState (Posted ω)) : Prop :=
  ∀ failing : ω → Notice → Failure,
    let posted := s.judging fun _ _ => .ok ()
    let failed := s.judging fun world notice => .error (failing world notice)
    let run := controller.dispatch event
    answer run failed = answer run posted ∧ (final run failed).queue = (final run posted).queue ∧
      (final run failed).session.world.asked = (final run posted).session.world.asked

/-- A world that serves a single object, which holds the operator's finalizer, and every chart. -/
structure Serving where

instance : World Serving where
  cluster
    | .get .., world =>
      (.ok (.ofFields
        [("apiVersion", .text "sample.example.org/v1alpha1"), ("kind", .text "Repo"),
          ("metadata", .ofFields
            [("finalizers", .list [.text Document.finalizer]), ("name", .text "demo"),
              ("namespace", .text "default")])]), world)
    | .replace _ _ _ body, world => (.ok body, world)
    | .discoverKind .., world => (.ok "repos", world)
    | .post _, world => (.ok (), world)
    | _, world => (.error Lone.refusal, world)
  wire _ world := (.error Lone.refusal, world)
  chart
    | .info _, world => (.ok ⟨"charts/repo", "", ""⟩, world)
    | .render .., world => (.ok [], world)
    | .find .., world => (.ok (), world)
    | .install .., world => (.ok (), world)
    | .uninstall _, world => (.ok (), world)
  file _ _ := .error .absent
  wallClock _ := "1970-01-01T00:00:00Z"
  steadyClock _ := .whole 0
  freshId world := ("0", world)

namespace Controller

/-- A controller of charts that posts notices. -/
def noticing : Controller (Posted Serving) where
  handler := (Backing.chart (.ofRecorder (.standard true))).handler
  resource := ⟨"sample.example.org", "v1alpha1", "repos"⟩
  recorder := .standard true
  options := .standard

/-- The start of a controller whose notices are all posted. -/
def postedStart : ControlState (Posted Serving) :=
  .start ((Lone.session (.ok .null) (.whole 0)).inWorld ⟨⟨⟩, fun _ _ => .ok (), []⟩)
    (.standard (.whole 0))

/-- The creation of the external resource of the object. -/
def servedCreation : Event :=
  ⟨.create, ⟨"sample.example.org/v1alpha1", "Repo", "demo", "default"⟩, "0"⟩

/-- Refused notices do not disturb the creation. -/
theorem undisturbed_creation :
    let refused := postedStart.judging fun _ _ => .error Lone.refusal
    postedStart.Alike refused ∧
      answer (noticing.dispatch servedCreation) postedStart =
        answer (noticing.dispatch servedCreation) refused ∧
      (final (noticing.dispatch servedCreation) postedStart).Alike
        (final (noticing.dispatch servedCreation) refused) := by
  have alike : postedStart.Alike (postedStart.judging fun _ _ => .error Lone.refusal) :=
    ⟨⟨rfl, rfl, rfl, rfl, rfl, fun _ _ => .inl rfl, fun _ _ => .inr ⟨_, _, rfl⟩⟩, rfl, rfl, rfl⟩
  exact ⟨alike, (undisturbed_by_refusals noticing (.chart (.ofRecorder (.standard true)))).2.1
    servedCreation _ _ alike⟩

/-- A notice that is lost on its way takes the creation with it. -/
theorem not_bestEffort : ¬noticing.BestEffort servedCreation postedStart := by
  intro bestEffort
  obtain ⟨ended, -, -⟩ := bestEffort fun _ _ => .exchange .connection "connection reset"
  contradiction

end Controller

end Reconciler
