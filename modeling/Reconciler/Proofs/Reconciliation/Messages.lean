import Reconciler.Proofs.Controller.Writes
import Reconciler.Proofs.Reconciliation.Inspection

/-!
# Messages of the readiness condition

Whoever may read a resource reads the message of its readiness condition.  A resource that is marked as
failed tells the message of the failure with its credentials masked.  A resource that waits for an object
of its release tells why the object is not available, in the words of that object, and these are written
as they are.
-/

namespace Reconciler

open Redaction (redactText)

/-! ## Reading the message -/

namespace Document

/-- The readiness condition among conditions: the first of its type. -/
def readinessIn (items : List Value) : Option Fields :=
  (items.filterMap Value.fields?).find? fun fields =>
    ((Fields.get? fields "type").getD .null).equal (.text "Ready")

/-- The message of the readiness condition. -/
def readyMessage (doc : Document) : Option Value :=
  match doc.object.follow conditionsPath with
  | .ok (.list items) => (readinessIn items).bind (·.get? "message")
  | _ => none

theorem readinessIn_of_stands {readiness : Readiness} {items : List Value}
    (stands : readiness.update.Stands items) :
    ∃ transition, readinessIn items = some (readiness.update.toFields transition) := by
  obtain ⟨before, transition, after, others, rfl⟩ := stands
  refine ⟨transition, ?_⟩
  have none_before : (before.filterMap Value.fields?).find? (fun fields =>
      ((Fields.get? fields "type").getD .null).equal (.text "Ready")) = none := by
    refine List.find?_eq_none.mpr fun fields member own => ?_
    obtain ⟨item, held, is_map⟩ := List.mem_filterMap.mp member
    obtain ⟨entries, rfl, other⟩ := others item held
    obtain rfl : entries = fields := Option.some.inj is_map
    rw [show Value.text "Ready" = .text readiness.update.type from rfl, other] at own
    contradiction
  unfold readinessIn
  rw [List.filterMap_append, List.find?_append, none_before, Option.none_or]
  rfl

/-- A document that tells a readiness has its message. -/
theorem Tells.readyMessage {doc : Document} {readiness : Readiness} (tells : doc.Tells readiness) :
    doc.readyMessage = some (.text readiness.message) := by
  obtain ⟨items, found, stands⟩ := tells
  obtain ⟨transition, ready⟩ := readinessIn_of_stands stands
  unfold Document.readyMessage
  rw [found]
  dsimp only
  rw [ready]
  rfl

/-- The readiness of a document that was told what an inspection found. -/
def heard : Option (ObjectRef × Failure) → Readiness
  | some (_, failure) => awaiting failure
  | none => .available

theorem Settled.conveys_heard {found : Option (ObjectRef × Failure)} {status : Fields}
    (settled : Settled found status) : Conveys (heard found).update status := by
  cases found with
  | none => exact settled.1
  | some entry => exact settled.1

end Document

open Document

/-! ## Resources that are marked as failed -/

namespace Controller

variable {ω : Type} [World ω]

/-- What is written of a resource that is marked as failed tells the failure with its credentials
masked. -/
theorem markFailed_messages (controller : Controller (Recorded ω)) (ref : ObjectRef) (failure : Failure)
    (session : Session (Recorded ω)) :
    ∃ made, (final (controller.markFailed ref failure) session).writes = session.writes ++ made ∧
      ∀ write ∈ made,
        (Document.ofObject write.body).readyMessage = some (.text (redactText failure.message)) := by
  obtain ⟨made, wrote, marked⟩ := controller.writes_marking ref failure session
  refine ⟨made, (controller.writes_markFailed ref failure session).trans wrote, fun write member => ?_⟩
  obtain ⟨live, -, now, answered, body⟩ := marked write member
  rw [body]
  exact (tells_of_setReady answered).readyMessage

end Controller

/-! ## Resources that wait for an object -/

namespace ChartHandling

variable {ω : Type} [World ω] (chart : ChartHandling)

/-- An object that is waited for is not available. -/
theorem firstUnavailable_notAvailable {refs : List ObjectRef} {session : Session ω} {ref : ObjectRef}
    {failure : Failure}
    (found : answer (firstUnavailable refs) session = .ok (some (ref, failure))) :
    ∃ about reason, failure = .notAvailable about reason := by
  induction refs generalizing session with
  | nil => exact absurd (Except.ok.inj found) (by simp)
  | cons first rest ih =>
      obtain ⟨outcome, -, found⟩ := ok_of_answer_bind found
      split at found
      · exact ih found
      next about reason =>
        have same := Option.some.inj (Except.ok.inj found)
        exact ⟨about, reason, (congrArg Prod.snd same).symm⟩
      · contradiction

/-- The objects of a manifest that can be read are looked for in their order. -/
theorem inspect_of_refs {manifest : List UInt8} {refs : List ObjectRef}
    (parsed : Manifest.refsOfBytes manifest = .ok refs) (release : Release) :
    inspect (ω := ω) release manifest = inSession (firstUnavailable (refs.map (placed release))) := by
  unfold inspect
  rw [parsed]
  rfl

/-- What an observation finds in the release of the document at hand, once its manifest is rendered. -/
def Finds (desk : Desk ω) (found : Option (ObjectRef × Failure)) : Prop :=
  ∃ release before manifest, chart.Renders desk release before manifest ∧
    answer (inspect release manifest) (chart.rendered desk) = .ok found

theorem Finds.notAvailable {chart : ChartHandling} {desk : Desk ω} {ref : ObjectRef}
    {failure : Failure} (finds : chart.Finds desk (some (ref, failure))) :
    ∃ about reason, failure = .notAvailable about reason := by
  obtain ⟨release, before, manifest, -, inspected⟩ := finds
  obtain ⟨refs, -, inspected⟩ := ok_of_answer_bind inspected
  rw [answer_inSession] at inspected
  exact firstUnavailable_notAvailable inspected

section Writing

variable {desk : Desk (Recorded ω)} {status : Fields}

/-- What is written to make known what was found tells it. -/
theorem conclude_messages (stated : desk.trail.statusFields = .ok status) (before : Fields)
    (found : Option (ObjectRef × Failure)) :
    ∃ made, (final (chart.conclude (ω := Recorded ω) before found) desk).trail.writes =
        desk.trail.writes ++ made ∧
      ∀ write ∈ made,
        (Document.ofObject write.body).readyMessage = some (.text (heard found).message) := by
  obtain ⟨answered, ⟨now, left⟩, same⟩ := restated_tell found stated
  let told := final (Handling.tell (ω := Recorded ω) found) desk
  have tells : told.document.Tells (heard found) :=
    tells_of_conveys left (settled_telling found now status).conveys_heard
  have ends : (final (chart.conclude (ω := Recorded ω) before found) desk).trail =
      (final (Handling.persistStatus (ω := Recorded ω) (some (.map before))) told).trail := by
    unfold conclude
    rw [final_bind_ok answered, final_bind]
    split
    · exact keeps_bind (chart.keeps_logFound found) (fun _ => keeps_pure true) _
    · rfl
  rw [ends]
  have unwritten : told.trail.writes = desk.trail.writes := congrArg Session.writes same
  rcases persistStatus_cases left before with ⟨-, -, kept⟩ | ⟨_, -, -, kept⟩ | ⟨write, -, body, wrote⟩
  · exact ⟨[], by rw [kept, unwritten, List.append_nil], by simp⟩
  · exact ⟨[], by rw [kept, unwritten, List.append_nil], by simp⟩
  · refine ⟨[write], by rw [wrote]; exact congrArg (· ++ _) unwritten, ?_⟩
    rintro _ member
    obtain rfl := List.mem_singleton.mp member
    rw [body]
    exact tells.readyMessage

/-- What an observation writes tells what it found. -/
theorem observe_messages (desk : Desk (Recorded ω)) :
    ∃ made, (final chart.handler.observe desk).session.writes = desk.session.writes ++ made ∧
      ∀ write ∈ made, ∃ found, chart.Finds desk found ∧
        (Document.ofObject write.body).readyMessage = some (.text (heard found).message) := by
  change ∃ made, (final chart.handler.observe desk).trail.writes = desk.trail.writes ++ made ∧ _
  let announced := final (chart.handling.announce "observe") desk
  have announces : answer (chart.handling.announce "observe") desk =
      .ok (chart.handling.kindOf desk.document) := rfl
  have ends := chart.handling.trail_measured chart.observeRelease announces
  have begins : (final chart.renderRelease announced).trail = desk.trail :=
    (keeps_done chart.done_renderRelease _).trans (chart.handling.keeps_announce "observe" desk)
  -- Nothing is written until a release is rendered and inspected.
  have unwritten (same : (final chart.handler.observe desk).trail = desk.trail) :
      ∃ made, (final chart.handler.observe desk).trail.writes = desk.trail.writes ++ made ∧
        ∀ write ∈ made, ∃ found, chart.Finds desk found ∧
          (Document.ofObject write.body).readyMessage = some (.text (heard found).message) :=
    ⟨[], by rw [same, List.append_nil], by simp⟩
  cases renders : answer chart.renderRelease announced with
  | error failure =>
      refine unwritten (ends.trans ?_)
      rw [observeRelease_eq, final_bind_error renders]
      exact begins
  | ok outcome =>
      rcases outcome with _ | ⟨release, before, manifest⟩
      · refine unwritten (ends.trans ?_)
        rw [observeRelease_eq, final_bind_ok renders]
        exact begins
      · cases inspected : answer (inspect release manifest) (chart.rendered desk) with
        | error failure =>
            refine unwritten (ends.trans ?_)
            rw [observeRelease_eq, final_bind_ok renders]
            exact (congrArg Desk.trail (final_bind_error inspected _)).trans
              ((keeps_done (done_inspect release manifest) _).trans begins)
        | ok found =>
            obtain ⟨next, unedited, -, left⟩ := chart.observe_eq_conclude renders inspected
            have stated : next.trail.statusFields = .ok before := by
              rw [unedited]
              exact (chart.renderRelease_states renders).1
            obtain ⟨made, wrote, tell⟩ := chart.conclude_messages stated before found
            rw [unedited] at wrote
            exact ⟨made, left ▸ wrote, fun write member =>
              ⟨found, ⟨release, before, manifest, renders, inspected⟩, tell write member⟩⟩

end Writing

/-- An observation of a release tells what it found with the credentials masked, whenever it writes. -/
def MasksMessages (desk : Desk (Recorded ω)) : Prop :=
  ∀ made, (final chart.handler.observe desk).session.writes = desk.session.writes ++ made →
    ∀ found, chart.Finds desk found → ∀ write ∈ made,
      (Document.ofObject write.body).readyMessage =
        some (.text (redactText (heard found).message))

end ChartHandling

/-- What is written of a resource that is marked as failed tells the failure with its credentials masked.
What an observation of a release writes has no message when the release is available, and otherwise tells
in its own words why an object is not: so the message is a masked one just when masking changes nothing. -/
theorem readyMessage_masked_iff {ω : Type} [World ω] :
    (∀ (controller : Controller (Recorded ω)) (ref : ObjectRef) (failure : Failure)
        (session : Session (Recorded ω)),
      ∃ made, (final (controller.markFailed ref failure) session).writes = session.writes ++ made ∧
        ∀ write ∈ made, (Document.ofObject write.body).readyMessage =
          some (.text (redactText failure.message))) ∧
    ∀ (chart : ChartHandling) (desk : Desk (Recorded ω)),
      ∃ made, (final chart.handler.observe desk).session.writes = desk.session.writes ++ made ∧
        ∀ write ∈ made, let message := (Document.ofObject write.body).readyMessage
          (chart.Finds desk none ∧ message = some (.text "")) ∨
          ∃ ref about reason, chart.Finds desk (some (ref, .notAvailable about reason)) ∧
            let text := (Failure.notAvailable about reason).message
            message = some (.text text) ∧
              (message = some (.text (redactText text)) ↔ redactText text = text) := by
  refine ⟨Controller.markFailed_messages, fun chart desk => ?_⟩
  obtain ⟨made, wrote, tell⟩ := chart.observe_messages desk
  refine ⟨made, wrote, fun write member => ?_⟩
  obtain ⟨found, finds, told⟩ := tell write member
  rcases found with _ | ⟨ref, failure⟩
  · exact .inl ⟨finds, told⟩
  · obtain ⟨about, reason, rfl⟩ := finds.notAvailable
    refine .inr ⟨ref, about, reason, finds, told, ?_⟩
    rw [told]
    refine ⟨fun same => ?_, fun same => by rw [same]; rfl⟩
    exact (Scalar.text.inj (Value.scalar.inj (Option.some.inj same))).symm

/-- A world in which a release holds a single object, which is not ready and says why. -/
structure Ailing where
  /-- What the object says. -/
  remark : String

namespace Ailing

/-- The manifest of the release. -/
def manifest : List UInt8 :=
  "kind: Widget\napiVersion: example.org/v1\nmetadata:\n  name: part\n".toList.map fun c =>
    UInt8.ofNat c.toNat

/-- The object as it stands in the cluster. -/
def object (world : Ailing) : Value :=
  .ofFields
    [("status", .ofFields
      [("conditions", .list
        [.ofFields
          [("type", .text "Ready"), ("status", .text "False"), ("message", .text world.remark)]])])]

instance : World Ailing where
  cluster
    | .get .., world => (.ok world.object, world)
    | .replaceStatus _ _ _ body, world => (.ok body, world)
    | .discoverKind .., world => (.ok "widgets", world)
    | _, world => (.error .kindNotServed, world)
  wire _ world := (.ok (.ofUtf8 200 [] none ""), world)
  chart
    | .info _, world => (.ok ⟨"charts/repo", "", ""⟩, world)
    | .render .., world => (.ok manifest, world)
    | .find .., world => (.ok (), world)
    | .install .., world => (.ok (), world)
    | .uninstall _, world => (.ok (), world)
  file _ _ := .error .absent
  wallClock _ := "1970-01-01T00:00:00Z"
  steadyClock _ := .whole 0
  freshId world := ("0", world)

/-- A resource whose release holds an object that echoes a password. -/
def desk : Desk (Recorded Ailing) :=
  ⟨⟨⟨⟨"password=hunter2"⟩, []⟩, .start .critical false, ⟨true, false⟩, .empty (.whole 0), none⟩,
    .ofObject Controller.goingObject⟩

/-- The setup of the handler. -/
def chart : ChartHandling :=
  .ofRecorder (.standard false)

/-- The release of the resource. -/
def release : Release :=
  ⟨⟨"charts/repo", "", ""⟩, "demo", "default"⟩

/-- The object of the release. -/
def part : ObjectRef :=
  ⟨"example.org/v1", "Widget", "part", ""⟩

/-- What the resource says about the object. -/
def complaint : String :=
  "failedObjectRef example.org/v1.Widget as part@default: err password=hunter2"

theorem refs_manifest : Manifest.refsOfBytes manifest = .ok [part] :=
  ok_of_toOption (by decide +kernel)

theorem trail_observe :
    (final chart.handler.observe desk).trail =
      (final (do
        let found ←
          inSession (ChartHandling.firstUnavailable ([part].map (ChartHandling.placed release)))
        chart.conclude [] found) (chart.rendered desk)).trail := by
  have renders : chart.Renders desk release [] manifest := rfl
  refine (chart.handling.trail_measured chart.observeRelease rfl).trans ?_
  rw [ChartHandling.observeRelease_eq, final_bind_ok renders]
  dsimp only
  rw [ChartHandling.inspect_of_refs refs_manifest]
  rfl

theorem readyMessages_observe :
    ((final chart.handler.observe desk).session.writes.filterMap fun write =>
      (Document.ofObject write.body).readyMessage.bind Value.text?) = [complaint] := by
  have writes := congrArg Trail.writes trail_observe
  simp only [Desk.trail] at writes
  rw [writes]
  decide +kernel

/-- The password is written as the object echoes it. -/
theorem not_masksMessages : ¬chart.MasksMessages desk := by
  intro masks
  obtain ⟨made, wrote, tell⟩ := chart.observe_messages desk
  have written : complaint ∈ [complaint] := by simp
  rw [← readyMessages_observe, wrote] at written
  obtain ⟨write, member, message⟩ := List.mem_filterMap.mp written
  obtain ⟨found, finds, told⟩ := tell write member
  have masked := masks made wrote found finds write member
  have own : (heard found).message = complaint := by
    rw [told] at message
    exact Option.some.inj message
  rw [own] at told masked
  have unmasked : Value.text (redactText complaint) = .text complaint :=
    Option.some.inj (masked.symm.trans told)
  have leaks : redactText complaint ≠ complaint := by decide +kernel
  exact leaks (Scalar.text.inj (Value.scalar.inj unmasked))

end Ailing

end Reconciler
