import Reconciler.Proofs.Chart.Manifest
import Reconciler.Proofs.Reconciliation.Messages
import Reconciler.Proofs.Session.Surroundings

/-!
# Available releases

A release is available when every object of its manifest exists and meets the conditions that gate
availability.  Otherwise the document at hand names the first object in the order of the manifest that does
not, and no object after it is read.  The observed state is written when it has changed, and only then.
-/

namespace Reconciler

/-! ## Available objects -/

namespace Document

variable {doc : Document} {status : Fields}

/-- Every condition of an observed state that gates availability is met. -/
def Healthy (status : Fields) : Prop :=
  ∀ item ∈ conditionsIn status, ∀ fields, item = .map fields →
    gatesAvailability fields = true → isTrue fields = true

theorem memberOr_status (stated : doc.statusFields = .ok status) :
    doc.object.memberOr "status" (.map []) = .ok (.map status) := by
  obtain ⟨fields, tree⟩ := (hasRoom_of_statusFields stated).exists_map
  have outer := topLevelFields_eq_ok_iff.mp stated
  rw [tree, Value.follow_map] at outer
  rw [tree]
  change Except.ok ((Fields.get? fields "status").getD (.map [])) = _
  cases here : Fields.get? fields "status" with
  | none =>
      obtain rfl : status = [] := by simpa [here] using outer
      rfl
  | some value =>
      obtain rfl : value = .map status := by simpa [here, Except.mapError] using outer
      rfl

theorem exists_failedRef (stated : doc.statusFields = .ok status) :
    ∃ about, doc.failedRef = .ok about := by
  unfold failedRef
  rw [memberOr_status stated]
  dsimp only [bind, Except.bind, Value.member]
  split <;> exact ⟨_, rfl⟩

/-- The conditions that gate availability and are not met. -/
def unmet (conditions : List Value) : List Fields :=
  conditions.filterMap fun condition =>
    condition.fields?.filter fun fields => gatesAvailability fields && !isTrue fields

theorem unmet_eq_nil_iff : unmet (conditionsIn status) = [] ↔ Healthy status := by
  unfold unmet Healthy
  rw [List.filterMap_eq_nil_iff]
  refine forall₂_congr fun item _ => ?_
  cases item <;> simp [Value.fields?]

/-- A document is available when its conditions are healthy, and is refused as not available otherwise. -/
theorem checkAvailable_cases (stated : doc.statusFields = .ok status) :
    (Healthy status ∧ doc.checkAvailable = .ok ()) ∨
      ¬Healthy status ∧ ∃ about reason, doc.checkAvailable = .error (.notAvailable about reason) := by
  rw [← unmet_eq_nil_iff]
  unfold checkAvailable
  rw [conditions_of_statusFields stated]
  cases found : unmet (conditionsIn status) with
  | nil =>
      refine .inl ⟨rfl, ?_⟩
      dsimp only [bind, Except.bind]
      rw [← unmet, found]
      rfl
  | cons condition rest =>
      obtain ⟨about, read⟩ := exists_failedRef stated
      refine .inr ⟨by simp, about, unmetReason condition, ?_⟩
      dsimp only [bind, Except.bind]
      rw [← unmet, found, read]
      rfl

end Document

open ChartHandling

namespace Surroundings

/-- How the object that a reference names is asked for. -/
def readingOf? (surroundings : Surroundings) (ref : ObjectRef) : Option Reading :=
  (kindOf ref).toOption.map fun kind =>
    surroundings.reading (surroundings.resourceOf kind) ref.namespace_ ref.name

/-- The object that a reference names, when it exists. -/
def objectOf? (surroundings : Surroundings) (ref : ObjectRef) : Option Value :=
  (surroundings.readingOf? ref).bind surroundings.stored?

/-- The object that a reference names exists, and its conditions that gate availability are met. -/
def Available (surroundings : Surroundings) (ref : ObjectRef) : Prop :=
  ∃ object status, surroundings.objectOf? ref = some object ∧
    (Cluster.documentOf object).statusFields = .ok status ∧ Document.Healthy status

/-- A reference states a version, and the observed state of the object that it names is a map. -/
structure Proper (surroundings : Surroundings) (ref : ObjectRef) : Prop where
  /-- The version can be read. -/
  version : ∃ kind, kindOf ref = .ok kind
  /-- The observed state can be read. -/
  status : ∀ object, surroundings.objectOf? ref = some object →
    ∃ status, (Cluster.documentOf object).statusFields = .ok status

theorem available_iff {surroundings : Surroundings} {ref : ObjectRef} {object : Value} {status : Fields}
    (found : surroundings.objectOf? ref = some object)
    (stated : (Cluster.documentOf object).statusFields = .ok status) :
    surroundings.Available ref ↔ Document.Healthy status := by
  refine ⟨fun ⟨other, held, there, shown, healthy⟩ => ?_,
    fun healthy => ⟨object, status, found, stated, healthy⟩⟩
  obtain rfl := Option.some.inj (found.symm.trans there)
  obtain rfl := Except.ok.inj (stated.symm.trans shown)
  exact healthy

theorem not_available_of_absent {surroundings : Surroundings} {ref : ObjectRef}
    (absent : surroundings.objectOf? ref = none) : ¬surroundings.Available ref := by
  rintro ⟨object, -, found, -⟩
  rw [absent] at found
  contradiction

variable {ω : Type} [World ω] {still : ω → Prop} {surroundings : Surroundings}
  (hold : surroundings.Hold still)
include hold

/-- A check of an object reads it once, and tells whether it is available. -/
theorem Hold.looks_checkObject {ref : ObjectRef} (proper : surroundings.Proper ref) :
    Looks still (checkObject ref)
      (fun o => surroundings.Available ref ∧ o = .ok () ∨
        ¬surroundings.Available ref ∧ ∃ reason, o = .error (.notAvailable (some ref) reason))
      (surroundings.readingOf? ref).toList := by
  obtain ⟨kind, stated⟩ := proper.version
  have asked : surroundings.readingOf? ref = some (surroundings.reading (surroundings.resourceOf kind)
      ref.namespace_ ref.name) := by
    rw [readingOf?, stated]
    rfl
  have kinds : Looks still (ofExcept (kindOf ref)) (· = .ok kind) [] := stated ▸ .ofExcept _
  have read := (hold.looks_read (surroundings.resourceOf kind) ref.namespace_ ref.name).attempt
  rw [asked]
  refine .bind_ok kinds (.bind_ok (hold.looks_resourceOf kind) (.bind read fun told own => ?_))
  obtain ⟨given, rfl, gives⟩ := own
  have named : surroundings.objectOf? ref = surroundings.stored? (surroundings.reading
      (surroundings.resourceOf kind) ref.namespace_ ref.name) := by
    rw [objectOf?, asked]
    rfl
  rw [← named] at gives
  cases found : surroundings.objectOf? ref with
  | none =>
      rw [found] at gives
      obtain ⟨failure, rfl, absent⟩ := gives
      dsimp only [Except.map]
      rw [absent]
      exact (Looks.ofExcept (.error _)).mono fun o same =>
        .inr ⟨not_available_of_absent found, _, same⟩
  | some object =>
      rw [found] at gives
      obtain rfl : given = .ok object := gives
      obtain ⟨status, stated⟩ := proper.status object found
      rw [available_iff found stated]
      dsimp only [Except.map]
      rcases Document.checkAvailable_cases stated with ⟨healthy, checked⟩ | ⟨ill, _, reason, checked⟩
      · rw [checked]
        exact (Looks.pure ()).mono fun o same => .inl ⟨healthy, same⟩
      · rw [checked]
        exact (Looks.ofExcept (.error _)).mono fun o same => .inr ⟨ill, reason, same⟩

/-- Objects that are available are passed over, each one read once. -/
theorem Hold.looks_firstUnavailable_append {before rest : List ObjectRef} {read : List Reading}
    {outcome : Except Failure (Option (ObjectRef × Failure)) → Prop}
    (proper : ∀ ref ∈ before, surroundings.Proper ref)
    (available : ∀ ref ∈ before, surroundings.Available ref)
    (looks : Looks still (firstUnavailable rest) outcome read) :
    Looks still (firstUnavailable (before ++ rest)) outcome
      (before.filterMap surroundings.readingOf? ++ read) := by
  induction before with
  | nil => exact looks
  | cons ref before ih =>
      have later := ih (fun other member => proper other (by simp [member]))
        fun other member => available other (by simp [member])
      have parts : (ref :: before).filterMap surroundings.readingOf? ++ read =
          (surroundings.readingOf? ref).toList ++
            (before.filterMap surroundings.readingOf? ++ read) := by
        rw [List.filterMap_eq_flatMap_toList, List.flatMap_cons, List.append_assoc,
          List.filterMap_eq_flatMap_toList]
      rw [parts]
      refine .bind (hold.looks_checkObject (proper ref (by simp))).attempt fun told own => ?_
      rcases own with ⟨-, rfl⟩ | ⟨not, -⟩
      · exact later
      · exact absurd (available ref (by simp)) not

/-- When all objects are available, none is found, and all are read. -/
theorem Hold.looks_firstUnavailable_none {refs : List ObjectRef}
    (proper : ∀ ref ∈ refs, surroundings.Proper ref)
    (available : ∀ ref ∈ refs, surroundings.Available ref) :
    Looks still (firstUnavailable refs) (· = .ok none) (refs.filterMap surroundings.readingOf?) := by
  have looks : Looks still (firstUnavailable (refs ++ [])) (· = .ok none)
      (refs.filterMap surroundings.readingOf? ++ []) :=
    hold.looks_firstUnavailable_append proper available (.pure none)
  rw [List.append_nil, List.append_nil] at looks
  exact looks

/-- The first object that is not available is found, and no object after it is read. -/
theorem Hold.looks_firstUnavailable_some {before rest : List ObjectRef} {ref : ObjectRef}
    (proper : ∀ other ∈ before ++ ref :: rest, surroundings.Proper other)
    (available : ∀ other ∈ before, surroundings.Available other)
    (ill : ¬surroundings.Available ref) :
    Looks still (firstUnavailable (before ++ ref :: rest))
      (fun o => ∃ reason, o = .ok (some (ref, .notAvailable (some ref) reason)))
      ((before ++ [ref]).filterMap surroundings.readingOf?) := by
  obtain ⟨earlier, own⟩ := List.forall_mem_append.mp proper
  have found : Looks still (firstUnavailable (ref :: rest))
      (fun o => ∃ reason, o = .ok (some (ref, .notAvailable (some ref) reason)))
      (surroundings.readingOf? ref).toList := by
    rw [← List.append_nil (surroundings.readingOf? ref).toList]
    refine .bind (hold.looks_checkObject (own ref List.mem_cons_self)).attempt fun told said => ?_
    rcases said with ⟨fine, -⟩ | ⟨-, reason, rfl⟩
    · exact absurd fine ill
    · exact (Looks.pure _).mono fun o same => ⟨reason, same⟩
  have looks := hold.looks_firstUnavailable_append earlier available found
  rw [List.filterMap_append]
  rwa [List.filterMap_eq_flatMap_toList (l := [ref]), List.flatMap_singleton]

omit [World ω] hold in
/-- Either all objects are available, or one of them is the first that is not. -/
theorem available_or_first (surroundings : Surroundings) (refs : List ObjectRef) :
    (∀ ref ∈ refs, surroundings.Available ref) ∨
      ∃ before ref rest, refs = before ++ ref :: rest ∧
        (∀ other ∈ before, surroundings.Available other) ∧ ¬surroundings.Available ref := by
  induction refs with
  | nil => exact .inl (by simp)
  | cons ref rest ih =>
      by_cases own : surroundings.Available ref
      · rcases ih with all | ⟨before, first, later, rfl, earlier, ill⟩
        · exact .inl (List.forall_mem_cons.mpr ⟨own, all⟩)
        · exact .inr ⟨ref :: before, first, later, rfl, List.forall_mem_cons.mpr ⟨own, earlier⟩, ill⟩
      · exact .inr ⟨[], ref, rest, rfl, by simp, own⟩

/-- The search ends, with an object or without one. -/
theorem Hold.looks_firstUnavailable {refs : List ObjectRef}
    (proper : ∀ ref ∈ refs, surroundings.Proper ref) :
    ∃ read, Looks still (firstUnavailable refs) (fun o => ∃ found, o = .ok found ∧ True) read := by
  rcases surroundings.available_or_first refs with available | ⟨before, ref, rest, rfl, available, ill⟩
  · have looks := hold.looks_firstUnavailable_none proper available
    exact ⟨_, looks.mono fun o same => ⟨none, same, trivial⟩⟩
  · have looks := hold.looks_firstUnavailable_some proper available ill
    exact ⟨_, looks.mono fun o found => found.elim fun reason same => ⟨_, same, trivial⟩⟩

/-! ## Releases -/

omit hold in
/-- The release of a document. -/
def releaseOf (surroundings : Surroundings) (doc : Document) : Release :=
  ⟨surroundings.chartOf doc, doc.name, doc.namespace_⟩

omit hold in
/-- The objects that documents describe, in the namespace of the release unless they name one. -/
def refsOf (surroundings : Surroundings) (doc : Document) (documents : List Value) :
    List ObjectRef :=
  (documents.filterMap Manifest.described?).map (placed (surroundings.releaseOf doc))

omit hold in
/-- The release of a document exists and its manifest holds some documents; what these describe, the
document itself and its observed state can be read. -/
structure Renders (surroundings : Surroundings) (doc : Document) (status : Fields)
    (documents : List Value) : Prop where
  /-- The release exists. -/
  isThere : surroundings.isReleased doc.name doc.namespace_ = true
  /-- The observed state of the document is a map. -/
  stated : doc.statusFields = .ok status
  /-- So are its metadata. -/
  room : doc.object.HasRoom "metadata"
  /-- The document states its kind. -/
  placed : ∃ kind, doc.groupVersionKind = .ok kind
  /-- The manifest with the desired state as values holds the documents. -/
  holds : ∃ values, doc.specFields = .ok values ∧
    Manifest.documents? (surroundings.manifest (surroundings.releaseOf doc) values) = some documents
  /-- The metadata of the documents are maps. -/
  proper : documents.all Manifest.isProper = true
  /-- The documents state versions, and the observed states of their objects are maps. -/
  refs : ∀ ref ∈ surroundings.refsOf doc documents, surroundings.Proper ref

theorem Hold.looks_releaseOf (doc : Document) :
    Looks still (ChartHandling.releaseOf doc) (· = .ok (surroundings.releaseOf doc)) [] := by
  have asked : Looks still (Work.chart (.info doc)) (· = .ok (surroundings.chartOf doc)) [] :=
    .chart fun w here => hold.charts here doc
  exact .bind_ok asked (.pure _)

theorem Hold.looks_hasRelease (release : Release) :
    Looks still (hasRelease release)
      (· = .ok (surroundings.isReleased release.name release.namespace_)) [] := by
  have asked : Looks still (Work.chart (.find release.name release.namespace_))
      (fun o => if surroundings.isReleased release.name release.namespace_ then o = .ok ()
        else ∃ text, o = .error (.releaseNotFound text)) [] :=
    .chart fun w here => hold.releases here release.name release.namespace_
  refine .bind asked.attempt fun told said => ?_
  cases isThere : surroundings.isReleased release.name release.namespace_ with
  | true =>
      rw [isThere, if_pos rfl] at said
      exact said ▸ .pure true
  | false =>
      rw [isThere, if_neg Bool.false_ne_true] at said
      obtain ⟨text, rfl⟩ := said
      exact .pure false

end Surroundings

namespace ChartHandling

variable (chart : ChartHandling) {ω : Type} [World ω] {still : ω → Prop} {surroundings : Surroundings}
  (hold : surroundings.Hold still) {readings : List Reading} {desk : Desk (Recorded (Inspected ω))}

include hold

/-- A release that does not exist is not rendered. -/
theorem answer_renderRelease_absent (stands : desk.session.Stands still readings)
    (absent : surroundings.isReleased desk.document.name desk.document.namespace_ = false) :
    answer chart.renderRelease desk = .ok none := by
  obtain ⟨named, next⟩ := hold.looks_releaseOf desk.document _ _ stands
  obtain ⟨found, -⟩ := hold.looks_hasRelease (surroundings.releaseOf desk.document) _ _ next
  rw [show surroundings.isReleased (surroundings.releaseOf desk.document).name
    (surroundings.releaseOf desk.document).namespace_ = false from absent] at found
  unfold renderRelease
  rw [answer_current_bind, answer_bind_ok ((answer_inSession ..).trans named), final_inSession,
    answer_bind_ok ((answer_inSession ..).trans found)]
  rfl

/-- A release that exists is rendered, and no object is read. -/
theorem renderRelease_present (stands : desk.session.Stands still readings)
    (isThere : surroundings.isReleased desk.document.name desk.document.namespace_ = true)
    {status values : Fields} (stated : desk.document.statusFields = .ok status)
    (wished : desk.document.specFields = .ok values) :
    let release := surroundings.releaseOf desk.document
    answer chart.renderRelease desk =
        .ok (some (release, status, surroundings.manifest release values)) ∧
      (final chart.renderRelease desk).session.Stands still readings := by
  dsimp only
  obtain ⟨named, next⟩ := hold.looks_releaseOf desk.document _ _ stands
  obtain ⟨found, later⟩ := hold.looks_hasRelease (surroundings.releaseOf desk.document) _ _ next
  rw [show surroundings.isReleased (surroundings.releaseOf desk.document).name
    (surroundings.releaseOf desk.document).namespace_ = true from isThere] at found
  have rendered : Looks still
      (Work.chart (.render (surroundings.releaseOf desk.document) values))
      (· = .ok (surroundings.manifest (surroundings.releaseOf desk.document) values)) [] :=
    .chart fun w here => hold.renders here _ _
  obtain ⟨told, left⟩ := rendered _ _ later
  unfold renderRelease
  rw [answer_current_bind, final_current_bind,
    answer_bind_ok ((answer_inSession ..).trans named),
    final_bind_ok ((answer_inSession ..).trans named), final_inSession,
    answer_bind_ok ((answer_inSession ..).trans found),
    final_bind_ok ((answer_inSession ..).trans found), final_inSession]
  simp only [Bool.not_true, Bool.false_eq_true, if_false]
  rw [answer_current_bind, final_current_bind, answer_bind_ok ((answer_ofExcept ..).trans stated),
    final_bind_ok ((answer_ofExcept ..).trans stated), final_ofExcept, answer_current_bind,
    final_current_bind, answer_bind_ok ((answer_ofExcept ..).trans wished),
    final_bind_ok ((answer_ofExcept ..).trans wished), final_ofExcept,
    answer_bind_ok ((answer_inSession ..).trans told),
    final_bind_ok ((answer_inSession ..).trans told), final_inSession]
  simp only [List.append_nil] at left
  exact ⟨rfl, left⟩

omit hold in
/-- Making known what was found edits the observed state alone. -/
theorem trails_tell (found : Option (ObjectRef × Failure)) :
    Trails [Document.conditionsPath, Document.failedRefPath]
      (Handling.tell (ω := Recorded ω) found) := by
  cases found with
  | none => exact trails_setAvailable (by simp) (by simp)
  | some entry =>
      exact proceeds_bind (trails_edit (Document.touches_setField (by simp [Document.failedRefPath]) _))
        fun _ => trails_setReady (by simp) _

omit hold in
theorem groupVersionKind_tell (found : Option (ObjectRef × Failure)) (desk : Desk (Recorded ω)) :
    (final (Handling.tell found) desk).document.groupVersionKind = desk.document.groupVersionKind := by
  have run : Trail.Run _ desk.trail (final (Handling.tell found) desk).trail := trails_tell found desk
  have version : (final (Handling.tell found) desk).document.apiVersion = desk.document.apiVersion :=
    Document.optionalString_congr (run.follow_eq (by decide))
  have kind : (final (Handling.tell found) desk).document.kind = desk.document.kind :=
    Document.optionalString_congr (run.follow_eq (by decide))
  unfold Document.groupVersionKind
  rw [version, kind]

omit hold in
theorem hasRoom_tell (found : Option (ObjectRef × Failure)) {desk : Desk (Recorded ω)}
    (room : desk.document.object.HasRoom "metadata") :
    (final (Handling.tell found) desk).document.object.HasRoom "metadata" := by
  have run : Trail.Run _ desk.trail (final (Handling.tell found) desk).trail := trails_tell found desk
  obtain ⟨-, -, edited, -⟩ := run.edited
  exact edited.hasRoom (by decide) room

/-- A status is stored where the resource of the document is found. -/
theorem answer_updateStatus {doc : Document} {session : Session (Recorded (Inspected ω))}
    (stands : session.Stands still readings) {kind : GroupVersionKind}
    (placed : doc.groupVersionKind = .ok kind) (room : doc.object.HasRoom "metadata") :
    ∃ stored version, answer (Cluster.updateStatus doc) session = .ok (Cluster.documentOf stored) ∧
      (Cluster.documentOf stored).metadataMember "resourceVersion" = .ok version := by
  have kinds : Looks still (Cluster.resourceOfDocument doc) (· = .ok (surroundings.resourceOf kind))
      [] := by
    have stated : Looks still (ofExcept doc.groupVersionKind) (· = .ok kind) [] := placed ▸ .ofExcept _
    exact .bind_ok stated (hold.looks_resourceOf kind)
  obtain ⟨named, next⟩ := kinds _ _ stands
  obtain ⟨stored, version, answered, told⟩ :=
    hold.accepts next.still (surroundings.resourceOf kind) doc.namespace_ doc.name room
  refine ⟨stored, version, ?_, told⟩
  have asked : answer (Work.cluster (.replaceStatus (surroundings.resourceOf kind) doc.namespace_
      doc.name doc.object)) (final (Cluster.resourceOfDocument doc) session) = .ok stored := by
    rw [Work.cluster, answer_ask]
    exact answered
  unfold Cluster.updateStatus
  rw [answer_bind_ok named, answer_bind_pure, Cluster.answer_metered, asked]
  rfl

/-- The observed state at hand is written when it has changed, and only then. -/
theorem persistStatus_outcome (stands : desk.session.Stands still readings) {kind : GroupVersionKind}
    (placed : desk.document.groupVersionKind = .ok kind)
    (room : desk.document.object.HasRoom "metadata") {now : Fields}
    (stated : desk.document.statusFields = .ok now) (before : Fields) :
    let act := Handling.persistStatus (ω := Recorded (Inspected ω)) (some (.map before))
    let kept := (Value.map now).unchanged (.map before)
    answer act desk = .ok !kept ∧
      ∃ made, (final act desk).session.writes = desk.session.writes ++ made ∧
        made.length = (if kept then 0 else 1) ∧
        ∀ write ∈ made, write.isWhole = false ∧ write.body = desk.document.object := by
  dsimp only
  cases kept : (Value.map now).unchanged (.map before) with
  | true =>
      obtain ⟨answered, left⟩ := persistStatus_kept stated kept
      rw [left]
      exact ⟨answered, [], by simp, by simp, by simp⟩
  | false =>
      obtain ⟨stored, version, updated, told⟩ := answer_updateStatus hold stands placed room
      rcases persistStatus_cases stated before with ⟨same, -, -⟩ | ⟨failure, -, unplaced, -⟩ |
        ⟨write, partly, body, left⟩
      · rw [kept] at same
        contradiction
      · rw [Cluster.updateStatus, answer_bind, unplaced] at updated
        contradiction
      · refine ⟨?_, [write], congrArg Trail.writes left, by simp, by simp [partly, body]⟩
        have shown : answer (ofExcept desk.document.statusFields :
            Reconcile (Recorded (Inspected ω)) Fields) desk = .ok now :=
          (answer_ofExcept _ desk).trans stated
        unfold Handling.persistStatus
        dsimp only
        rw [answer_current_bind, answer_bind_ok shown, final_ofExcept, pure_bind, kept,
          if_neg Bool.false_ne_true, answer_current_bind,
          answer_bind_ok ((answer_inSession ..).trans updated), final_inSession]
        refine answer_bind_ok (a := ()) ?_ _
        exact (answer_edit ..).trans (Document.answer_adoptVersion told room)

omit hold in
/-- Writing the observed state reads no object. -/
theorem keeps_readings_persistStatus (before : Option Value) :
    Keeps (fun desk => desk.session.readings)
      (Handling.persistStatus (ω := Recorded (Inspected ω)) before) := by
  have written : Keeps (fun desk => desk.session.readings) (do
      let updated ← inSession (Cluster.updateStatus (← Desk.current))
      Desk.edit (Document.adoptVersion updated)
      pure true : Reconcile (Recorded (Inspected ω)) Bool) := by
    refine keeps_bind (fun _ => rfl) fun doc => ?_
    refine keeps_bind (fun desk => ?_) fun updated =>
      keeps_bind (fun desk => by rw [final_edit]) fun _ => keeps_pure true
    rw [final_inSession]
    exact Inspected.keeps_updateStatus doc desk.session
  have judged (isKept : Bool) : Keeps (fun desk => desk.session.readings) (if isKept then pure false
      else do
        let updated ← inSession (Cluster.updateStatus (← Desk.current))
        Desk.edit (Document.adoptVersion updated)
        pure true : Reconcile (Recorded (Inspected ω)) Bool) := by
    cases isKept with
    | true => exact keeps_pure false
    | false => exact written
  cases before with
  | none => exact keeps_bind (keeps_pure false) judged
  | some status =>
      refine keeps_bind (fun _ => rfl) fun doc => keeps_bind (keeps_ofExcept _) fun current => ?_
      exact keeps_bind (keeps_pure _) judged

omit hold [World ω] in
theorem outward_logFound (found : Option (ObjectRef × Failure)) (desk : Desk ω) :
    (final (chart.logFound found) desk).outward = desk.outward := by
  cases found <;> rfl

/-- What was found is made known by the observed state at hand, which is written when it has changed. -/
theorem conclude_outcome (stands : desk.session.Stands still readings) {kind : GroupVersionKind}
    (placed : desk.document.groupVersionKind = .ok kind)
    (room : desk.document.object.HasRoom "metadata") {status : Fields}
    (stated : desk.document.statusFields = .ok status) (found : Option (ObjectRef × Failure)) :
    let act := chart.conclude (ω := Recorded (Inspected ω)) status found
    let after := final act desk
    answer act desk = .ok true ∧ after.session.readings = readings ∧
      ∃ now, after.document.statusFields = .ok now ∧ Document.Settled found now ∧
        ∃ made, after.session.writes = desk.session.writes ++ made ∧
          made.length = (if (Value.map now).unchanged (.map status) then 0 else 1) ∧
          ∀ write ∈ made, write.isWhole = false ∧
            (Document.ofObject write.body).statusFields = .ok now := by
  dsimp only
  obtain ⟨answered, ⟨time, left⟩, same⟩ := restated_tell found stated
  let told := final (Handling.tell (ω := Recorded (Inspected ω)) found) desk
  have told_stands : told.session.Stands still readings := same ▸ stands
  obtain ⟨written, made, wrote, length, bodies⟩ :=
    persistStatus_outcome hold told_stands ((groupVersionKind_tell found desk).trans placed)
      (hasRoom_tell found room) left status
  have shown := statusFields_persistStatus left status
  have unread : (final (Handling.persistStatus (some (.map status))) told).session.readings =
      readings :=
    (keeps_readings_persistStatus _ told).trans told_stands.readings
  unfold conclude
  rw [answer_bind_ok answered, final_bind_ok answered, answer_bind_ok written, final_bind_ok written,
    answer_bind_ok (chart.answer_logFound found _), final_bind_ok (chart.answer_logFound found _),
    final_pure]
  -- What is logged at the end shows neither in the world nor in the document.
  have quiet := chart.outward_logFound found (final (Handling.persistStatus (some (.map status))) told)
  obtain ⟨world, document⟩ := Prod.mk.inj quiet
  refine ⟨rfl, (congrArg (fun world => world.world.readings) world).trans unread,
    Document.telling found time status, ?_, Document.settled_telling found time status, made, ?_,
    length, fun write member => ⟨(bodies write member).1, ?_⟩⟩
  · rw [document]
    exact shown
  · exact (congrArg Recorded.writes world).trans
      (wrote.trans (congrArg (fun session => Session.writes session ++ made) same))
  · rw [(bodies write member).2]
    exact left

omit hold in
/-- What follows the rendering of a release. -/
def examine {ω : Type} [World ω] : Option (Release × Fields × List UInt8) → Reconcile ω Bool
  | none => pure false
  | some (release, before, manifest) => do
    chart.conclude before (← inspect release manifest)

omit hold in
theorem observeRelease_eq_examine :
    chart.observeRelease (ω := ω) = chart.renderRelease >>= chart.examine :=
  chart.observeRelease_eq.trans (bind_congr fun rendered => by
    cases rendered <;> rfl)

omit hold in
theorem answer_announce :
    answer (chart.handling.announce "observe") desk = .ok (chart.handling.kindOf desk.document) :=
  rfl

omit hold in
theorem stands_announce (stands : desk.session.Stands still readings) :
    (final (chart.handling.announce "observe") desk).session.Stands still readings :=
  ⟨stands.still, stands.readings, stands.discovers⟩

omit hold in
/-- An observation ends as what follows the rendering of the release, and changes nothing before. -/
theorem observe_of_rendered {rendered : Option (Release × Fields × List UInt8)}
    (given : answer chart.renderRelease (final (chart.handling.announce "observe") desk) =
      .ok rendered) :
    let ready := final chart.renderRelease (final (chart.handling.announce "observe") desk)
    answer chart.handler.observe desk = answer (chart.examine rendered) ready ∧
      (final chart.handler.observe desk).outward = (final (chart.examine rendered) ready).outward ∧
      ready.trail = desk.trail := by
  have parts := chart.observeRelease_eq_examine (ω := Recorded (Inspected ω))
  refine ⟨?_, ?_, ?_⟩
  · refine (chart.handling.answer_measured chart.observeRelease chart.answer_announce).trans ?_
    rw [parts, answer_bind_ok given]
  · refine (chart.handling.outward_measured chart.observeRelease chart.answer_announce).trans ?_
    rw [parts, final_bind_ok given]
  · exact (keeps_done chart.done_renderRelease _).trans (chart.handling.keeps_announce "observe" desk)

/-- An observation of a release that exists makes known what is found among the objects of its manifest. -/
theorem observe_of_found (stands : desk.session.Stands still readings) {status : Fields}
    {documents : List Value} (renders : surroundings.Renders desk.document status documents)
    {P : Option (ObjectRef × Failure) → Prop} {read : List Reading}
    (looks : Looks still (firstUnavailable (surroundings.refsOf desk.document documents))
      (fun o => ∃ found, o = .ok found ∧ P found) read) :
    let after := final chart.handler.observe desk
    answer chart.handler.observe desk = .ok true ∧ after.session.readings = readings ++ read ∧
      ∃ found now, P found ∧ after.document.statusFields = .ok now ∧ Document.Settled found now ∧
        ∃ made, after.session.writes = desk.session.writes ++ made ∧
          made.length = (if (Value.map now).unchanged (.map status) then 0 else 1) ∧
          ∀ write ∈ made, write.isWhole = false ∧
            (Document.ofObject write.body).statusFields = .ok now := by
  obtain ⟨values, wished, held⟩ := renders.holds
  obtain ⟨kind, placed⟩ := renders.placed
  let announced := final (chart.handling.announce "observe") desk
  obtain ⟨rendered, rendered_stands⟩ := chart.renderRelease_present hold
    (chart.stands_announce stands) renders.isThere renders.stated wished
  obtain ⟨answers, seen, kept⟩ := chart.observe_of_rendered rendered
  let release := surroundings.releaseOf desk.document
  let ready := final chart.renderRelease announced
  have same : ready.document = desk.document :=
    keeps_document chart.done_renderRelease rfl announced
  obtain ⟨⟨found, answered, own⟩, left⟩ := looks _ _ rendered_stands
  let next : Desk (Recorded (Inspected ω)) :=
    ⟨final (firstUnavailable (surroundings.refsOf desk.document documents)) ready.session,
      desk.document⟩
  have next_stands : next.session.Stands still (readings ++ read) := left
  have inspection : inspect (ω := Recorded (Inspected ω)) release (surroundings.manifest release values) =
      inSession (firstUnavailable (surroundings.refsOf desk.document documents)) :=
    inspect_of_refs (Manifest.refsOfBytes_eq held renders.proper) release
  have inspected : answer (inspect release (surroundings.manifest release values)) ready = .ok found := by
    rw [inspection, answer_inSession, answered]
  have ends : final (inspect release (surroundings.manifest release values)) ready = next := by
    rw [inspection, final_inSession, same]
  obtain ⟨concluded, read_all, now, shown, settled, made, wrote, length, bodies⟩ :=
    chart.conclude_outcome hold next_stands placed renders.room renders.stated found
  -- Until what was found is made known, nothing is written.
  have unwritten : next.session.writes = desk.session.writes := by
    have inspects := keeps_done (done_inspect release (surroundings.manifest release values)) ready
    rw [ends] at inspects
    exact congrArg Trail.writes (inspects.trans kept)
  have follows : (final (chart.examine (some (release, status, surroundings.manifest release values)))
      ready).outward = (final (chart.conclude status found) next).outward := by
    rw [examine, final_bind_ok inspected, ends]
  obtain ⟨world, document⟩ := Prod.mk.inj (seen.trans follows)
  refine ⟨?_, (congrArg (fun world => world.world.readings) world).trans read_all, found, now, own,
    document ▸ shown, settled, made, ?_, length, bodies⟩
  · refine answers.trans ((answer_bind_ok inspected _).trans ?_)
    rw [ends]
    exact concluded
  · exact (congrArg Recorded.writes world).trans (wrote.trans (congrArg (· ++ made) unwritten))

/-- An observation of a release that does not exist says so, and changes nothing. -/
theorem observe_absent (stands : desk.session.Stands still readings)
    (absent : surroundings.isReleased desk.document.name desk.document.namespace_ = false) :
    let after := final chart.handler.observe desk
    answer chart.handler.observe desk = .ok false ∧ after.document = desk.document ∧
      after.session.writes = desk.session.writes := by
  obtain ⟨answers, seen, kept⟩ := chart.observe_of_rendered
    (chart.answer_renderRelease_absent hold (chart.stands_announce stands) absent)
  obtain ⟨world, document⟩ := Prod.mk.inj seen
  refine ⟨answers, document.trans ?_, ?_⟩
  · exact keeps_document chart.done_renderRelease rfl _
  · exact (congrArg Recorded.writes world).trans (congrArg Trail.writes kept)

/-- An observation says whether the release exists, and changes nothing when it does not.  When all objects
of the manifest are available, the document tells so and waits for nothing; otherwise it waits for the
first one in the order of the manifest that is not, and no object after that one is read.  The observed
state is written when it has changed, and only then. -/
theorem observe_release (stands : desk.session.Stands still readings) :
    let doc := desk.document
    let act := chart.handler.observe (ω := Recorded (Inspected ω))
    let after := final act desk
    (surroundings.isReleased doc.name doc.namespace_ = false →
      answer act desk = .ok false ∧ after.document = doc ∧
        after.session.writes = desk.session.writes) ∧
    ∀ status documents, surroundings.Renders doc status documents →
      let refs := surroundings.refsOf doc documents
      answer act desk = .ok true ∧
      ((∀ ref ∈ refs, surroundings.Available ref) →
        after.document.Tells .available ∧
          after.document.object.follow Document.failedRefPath = .error .absent ∧
          after.session.readings = readings ++ refs.filterMap surroundings.readingOf?) ∧
      (∀ before ref rest, refs = before ++ ref :: rest →
        (∀ other ∈ before, surroundings.Available other) → ¬surroundings.Available ref →
        ∃ reason, after.document.Tells (Document.awaiting (.notAvailable (some ref) reason)) ∧
          after.document.object.follow Document.failedRefPath = .ok ref.toValue ∧
          after.session.readings =
            readings ++ (before ++ [ref]).filterMap surroundings.readingOf?) ∧
      ∃ now made, after.document.statusFields = .ok now ∧
        after.session.writes = desk.session.writes ++ made ∧
        made.length = (if (Value.map now).unchanged (.map status) then 0 else 1) ∧
        ∀ write ∈ made, write.isWhole = false ∧
          (Document.ofObject write.body).statusFields = .ok now := by
  dsimp only
  refine ⟨chart.observe_absent hold stands, fun status documents renders => ?_⟩
  obtain ⟨_, search⟩ := hold.looks_firstUnavailable renders.refs
  obtain ⟨answered, -, _, now, -, stated, -, made, wrote, length, bodies⟩ :=
    chart.observe_of_found hold stands renders search
  refine ⟨answered, fun available => ?_, fun before ref rest split available ill => ?_,
    now, made, stated, wrote, length, bodies⟩
  · have looks := hold.looks_firstUnavailable_none renders.refs available
    obtain ⟨-, read, _, now, rfl, stated, settled, -⟩ :=
      chart.observe_of_found hold stands renders (P := (· = none))
        (looks.mono fun o same => ⟨none, same, rfl⟩)
    refine ⟨Document.tells_of_conveys stated settled.1, ?_, read⟩
    rw [Document.failedRefPath, Document.follow_status stated, settled.2]
  · have looks := hold.looks_firstUnavailable_some (split ▸ renders.refs) available ill
    rw [← split] at looks
    obtain ⟨-, read, _, now, ⟨reason, rfl⟩, stated, settled, -⟩ :=
      chart.observe_of_found hold stands renders
        (P := fun found => ∃ reason, found = some (ref, .notAvailable (some ref) reason))
        (looks.mono fun o found => found.elim fun reason same => ⟨_, same, reason, rfl⟩)
    refine ⟨reason, Document.tells_of_conveys stated settled.1, ?_, read⟩
    rw [Document.failedRefPath, Document.follow_status stated, settled.2]

end ChartHandling

/-! ## A release with a part that is missing -/

namespace Surroundings

/-- The answer about an object. -/
def answerOf : Option Value → Except Failure Value
  | some object => .ok object
  | none => .error (.cluster (some 404) "Not Found")

/-- Surroundings are a world of their own, which nothing changes. -/
instance : World Surroundings where
  cluster
    | .get resource namespace_ name, s => (answerOf (s.stored? (.object resource namespace_ name)), s)
    | .getCore resource name namespace_, s => (answerOf (s.stored? (.core resource name namespace_)), s)
    | .discoverKind apiVersion kind, s => (.ok (s.nameOf apiVersion kind), s)
    | .discoverName apiVersion name, s => (.ok (s.coreNameOf apiVersion name), s)
    | .replaceStatus _ _ _ body, s => (.ok body, s)
    | _, s => (.error .kindNotServed, s)
  wire _ s := (.ok (.ofUtf8 200 [] none ""), s)
  chart
    | .info doc, s => (.ok (s.chartOf doc), s)
    | .find name namespace_, s =>
      (if s.isReleased name namespace_ then .ok () else .error (.releaseNotFound name), s)
    | .render release values, s => (.ok (s.manifest release values), s)
    | .install .., s => (.ok (), s)
    | .uninstall _, s => (.ok (), s)
  file _ _ := .error .absent
  wallClock _ := "1970-01-01T00:00:00Z"
  steadyClock _ := .whole 0
  freshId s := ("0", s)

theorem gives_answerOf (object? : Option Value) : Gives object? (answerOf object?) := by
  cases object? with
  | none => exact ⟨_, rfl, rfl⟩
  | some object => rfl

theorem exists_metadataMember {body : Value} (room : body.HasRoom "metadata") (name : String) :
    ∃ value, (Cluster.documentOf body).metadataMember name = .ok value := by
  obtain ⟨fields, rfl⟩ := room.exists_map
  change ∃ value, Value.member ((Fields.get? fields "metadata").getD (.map [])) name = .ok value
  rcases (Value.hasRoom_map_iff fields "metadata").mp room with absent | ⟨entries, found⟩
  · exact ⟨.null, by rw [absent]; rfl⟩
  · exact ⟨_, by rw [found]; rfl⟩

/-- Surroundings hold in the world that they are. -/
theorem hold_self (surroundings : Surroundings) : surroundings.Hold (· = surroundings) := by
  refine ⟨?_, ?_, ?_, ?_, ?_, ?_, ?_, ?_⟩ <;> rintro w rfl
  · exact fun apiVersion kind => ⟨rfl, rfl⟩
  · exact fun apiVersion name => ⟨rfl, rfl⟩
  · exact fun resource namespace_ name => ⟨gives_answerOf _, rfl⟩
  · exact fun resource name namespace_ => ⟨gives_answerOf _, rfl⟩
  · exact fun doc => ⟨rfl, rfl⟩
  · refine fun name namespace_ => ⟨?_, rfl⟩
    change if w.isReleased name namespace_ then (if w.isReleased name namespace_ then _ else _) = _
      else ∃ text, (if w.isReleased name namespace_ then _ else _) = Except.error _
    split
    next => rfl
    next => exact ⟨name, rfl⟩
  · exact fun release values => ⟨rfl, rfl⟩
  · intro resource namespace_ name body room
    obtain ⟨value, told⟩ := exists_metadataMember room "resourceVersion"
    exact ⟨body, value, rfl, told⟩

/-- The manifest of three objects. -/
def threeParts : List UInt8 :=
  "kind: A\napiVersion: e/v1\n---\nkind: B\napiVersion: e/v1\n---\nkind: C\napiVersion: e/v1\n".toList.map
    fun c => UInt8.ofNat c.toNat

/-- An object that is ready. -/
def readyObject : Value :=
  .ofFields
    [("status", .ofFields
      [("conditions", .list [.ofFields [("type", .text "Ready"), ("status", .text "True")]])])]

/-- Only the first of the three objects exists, and it is ready. -/
def partly : Surroundings where
  nameOf _ kind := kind
  coreNameOf _ name := name
  stored? reading :=
    if reading = .object ⟨"e", "v1", "A"⟩ "default" "" then some readyObject else none
  chartOf _ := ⟨"charts/parts", "", ""⟩
  isReleased _ _ := true
  manifest _ _ := threeParts

/-- The reference to one of the three objects. -/
def partRef (kind : String) : ObjectRef :=
  ⟨"e/v1", kind, "", "default"⟩

/-- The resource whose release has the three objects. -/
def threePartsDesk : Desk (Recorded (Inspected Surroundings)) :=
  ⟨⟨⟨⟨partly, []⟩, []⟩, .start .critical false, ⟨true, false⟩, .empty (.whole 0), none⟩,
    .ofObject (.ofFields
      [("apiVersion", .text "e/v1"), ("kind", .text "Parts"),
        ("metadata", .ofFields [("name", .text "parts"), ("namespace", .text "default")])])⟩

theorem described_threeParts :
    ∃ documents, Manifest.documents? threeParts = some documents ∧
      documents.filterMap Manifest.described? =
        ["A", "B", "C"].map (fun kind => ⟨"e/v1", kind, "", ""⟩) ∧
      documents.all Manifest.isProper = true := by
  have parsed : (Manifest.documents? threeParts).map (fun documents =>
      (documents.filterMap Manifest.described?, documents.all Manifest.isProper)) =
        some (["A", "B", "C"].map (fun kind => ⟨"e/v1", kind, "", ""⟩), true) := by
    decide +kernel
  obtain ⟨documents, held, same⟩ := Option.map_eq_some_iff.mp parsed
  exact ⟨documents, held, congrArg Prod.fst same, congrArg Prod.snd same⟩

theorem stated_readyObject : ∃ status, (Cluster.documentOf readyObject).statusFields = .ok status ∧
    Document.Healthy status :=
  ⟨_, rfl, Document.unmet_eq_nil_iff.mp rfl⟩

theorem proper_partRef (kind : String) : partly.Proper (partRef kind) := by
  have parsed : parseApiVersion (partRef kind).apiVersion = .ok ("e", "v1") :=
    (by decide +kernel : parseApiVersion "e/v1" = .ok ("e", "v1"))
  have version : ChartHandling.kindOf (partRef kind) = .ok ⟨"e", "v1", kind⟩ := by
    rw [ChartHandling.kindOf, parsed]
    rfl
  refine ⟨⟨_, version⟩, fun object found => ?_⟩
  obtain ⟨reading, -, stored⟩ := Option.bind_eq_some_iff.mp found
  obtain ⟨status, stated, -⟩ := stated_readyObject
  obtain ⟨-, rfl⟩ : _ ∧ readyObject = object := by
    simpa [partly, Option.ite_none_right_eq_some] using stored
  exact ⟨status, stated⟩

theorem available_partA : partly.Available (partRef "A") := by
  obtain ⟨status, stated, healthy⟩ := stated_readyObject
  exact ⟨readyObject, status, rfl, stated, healthy⟩

theorem not_available_partB : ¬partly.Available (partRef "B") :=
  not_available_of_absent rfl

theorem renders_threeParts :
    ∃ documents, partly.Renders threePartsDesk.document [] documents ∧
      partly.refsOf threePartsDesk.document documents = [partRef "A", partRef "B", partRef "C"] := by
  obtain ⟨documents, held, described, proper⟩ := described_threeParts
  have refs : partly.refsOf threePartsDesk.document documents =
      [partRef "A", partRef "B", partRef "C"] := by
    rw [refsOf, described]
    rfl
  have parts : ∀ ref ∈ partly.refsOf threePartsDesk.document documents, partly.Proper ref := by
    rw [refs]
    simp [proper_partRef]
  have manifest (release : Release) (values : Fields) : partly.manifest release values = threeParts := rfl
  refine ⟨documents, ⟨rfl, rfl, .inr ⟨_, rfl⟩, ⟨_, rfl⟩, ⟨[], rfl, ?_⟩, proper, parts⟩, refs⟩
  rw [manifest]
  exact held

/-- A document that names an object to wait for differs from one without an observed state. -/
theorem changed_of_follow {doc : Document} {now : Fields} {value : Value}
    (stated : doc.statusFields = .ok now)
    (named : doc.object.follow Document.failedRefPath = .ok value) :
    (Value.map now).unchanged (.map []) = false := by
  rw [Document.failedRefPath, Document.follow_status stated] at named
  cases now with
  | nil => cases named
  | cons entry rest => rfl

/-- The resource waits for the second object, and the third one is not read. -/
theorem observe_threeParts :
    let after := final (ChartHandling.ofRecorder (.standard false)).handler.observe threePartsDesk
    (∃ reason, after.document.Tells (Document.awaiting (.notAvailable (some (partRef "B")) reason))) ∧
      after.document.object.follow Document.failedRefPath = .ok (partRef "B").toValue ∧
      after.session.readings =
        [.object ⟨"e", "v1", "A"⟩ "default" "", .object ⟨"e", "v1", "B"⟩ "default" ""] ∧
      after.session.writes.length = 1 := by
  obtain ⟨documents, renders, refs⟩ := renders_threeParts
  have stands : threePartsDesk.session.Stands (· = partly) [] := ⟨rfl, rfl, rfl⟩
  have unwritten : threePartsDesk.session.writes = [] := rfl
  have reads : [] ++ ([partRef "A"] ++ [partRef "B"]).filterMap partly.readingOf? =
      [.object ⟨"e", "v1", "A"⟩ "default" "", .object ⟨"e", "v1", "B"⟩ "default" ""] := rfl
  obtain ⟨-, -, waits, now, made, stated, wrote, length, -⟩ :=
    (ChartHandling.observe_release (.ofRecorder (.standard false)) partly.hold_self stands).2 []
      documents renders
  obtain ⟨reason, tells, named, read⟩ := waits [partRef "A"] (partRef "B") [partRef "C"] refs
    (by simpa using available_partA) not_available_partB
  rw [reads] at read
  rw [unwritten] at wrote
  rw [changed_of_follow stated named, if_neg Bool.false_ne_true] at length
  refine ⟨⟨reason, tells⟩, named, read, ?_⟩
  rw [wrote]
  exact length

end Surroundings

end Reconciler
