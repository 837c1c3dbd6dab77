import Reconciler.Proofs.Controller.Frame
import Reconciler.Proofs.WorkQueue.Run

/-!
# Classification of notifications

What a controller knows of a resource is what the last notification showed that did not report its
deletion, whatever else the controller does between notifications.  So the event that a notification asks
for is a matter of the past notifications of the same resource alone.
-/

namespace Reconciler

/-! ## The table of known resources -/

namespace ControlState

variable (ref r : ObjectRef) (snapshot : Snapshot) (known : List (ObjectRef × Snapshot))

theorem lookup_remember :
    (remember ref snapshot known).lookup r = if r = ref then some snapshot else known.lookup r := by
  induction known with
  | nil =>
      by_cases here : r = ref
      · simp [remember, here]
      · simp [remember, List.lookup_cons, beq_eq_false_iff_ne.mpr here, here]
  | cons entry rest ih =>
      obtain ⟨first, seen⟩ := entry
      unfold remember
      by_cases taken : first = ref
      · subst taken
        rw [if_pos (beq_self_eq_true _), List.lookup_cons, List.lookup_cons]
        by_cases here : r = first
        · simp [here]
        · simp [here, beq_eq_false_iff_ne.mpr here]
      · rw [if_neg (by simpa using taken), List.lookup_cons, List.lookup_cons, ih]
        by_cases here : r = first
        · simp [here, taken]
        · simp [beq_eq_false_iff_ne.mpr here]

theorem lookup_forget :
    (forget ref known).lookup r = if r = ref then none else known.lookup r := by
  induction known with
  | nil => simp [forget]
  | cons entry rest ih =>
      obtain ⟨first, seen⟩ := entry
      unfold forget at ih ⊢
      by_cases dropped : first = ref
      · subst dropped
        rw [List.filter_cons_of_neg (by simp), ih, List.lookup_cons]
        by_cases here : r = first
        · simp [here]
        · simp [here, beq_eq_false_iff_ne.mpr here]
      · rw [List.filter_cons_of_pos (by simpa using dropped), List.lookup_cons, List.lookup_cons, ih]
        by_cases here : r = first
        · simp [here, dropped]
        · simp [beq_eq_false_iff_ne.mpr here]

/-- A resource is known when something was seen of it. -/
theorem mem_keys_iff :
    r ∈ known.map Prod.fst ↔ ∃ snapshot, known.lookup r = some snapshot := by
  induction known with
  | nil => simp
  | cons entry rest ih =>
      rw [List.map_cons, List.mem_cons, ih, List.lookup_cons]
      by_cases here : r = entry.1
      · simp [here]
      · simp [here, beq_eq_false_iff_ne.mpr here]

variable {known}

theorem nodup_remember (nodup : (known.map Prod.fst).Nodup) :
    ((remember ref snapshot known).map Prod.fst).Nodup := by
  induction known with
  | nil => simp [remember]
  | cons entry rest ih =>
      obtain ⟨first, seen⟩ := entry
      obtain ⟨absent, rest_nodup⟩ := List.nodup_cons.mp nodup
      unfold remember
      split
      next => exact nodup
      next other =>
        refine List.nodup_cons.mpr ⟨fun member => absent ?_, ih rest_nodup⟩
        rw [mem_keys_iff, lookup_remember, if_neg (by simpa using other)] at member
        exact (mem_keys_iff first rest).mpr member

theorem nodup_forget (nodup : (known.map Prod.fst).Nodup) :
    ((forget ref known).map Prod.fst).Nodup :=
  nodup.sublist (List.filter_sublist.map Prod.fst)

end ControlState

/-! ## Notifications -/

/-- A notification of the watch. -/
structure Notification where
  /-- The type; the listing at the start has none. -/
  type : Option String
  /-- The resource. -/
  body : Value

namespace Notification

/-- The document that is shown. -/
def doc (notification : Notification) : Document :=
  Control.shown notification.body

/-- The resource that is shown. -/
def ref (notification : Notification) : ObjectRef :=
  notification.doc.ref

/-- The resource is a map with a map of metadata. -/
def HasMetadata (notification : Notification) : Prop :=
  ∃ fields metadata : Fields,
    notification.body = .map fields ∧ fields.get? "metadata" = some (.map metadata)

/-- The notification lists a resource, or says that it was added or modified. -/
def Shows (notification : Notification) (ref : ObjectRef) : Prop :=
  (notification.type = none ∨ notification.type = some "ADDED" ∨
    notification.type = some "MODIFIED") ∧ notification.ref = ref

/-- The notification says that a resource was deleted. -/
def Removes (notification : Notification) (ref : ObjectRef) : Prop :=
  notification.type = some "DELETED" ∧ notification.ref = ref

/-- What the notification shows of its resource. -/
def Pictures (notification : Notification) (snapshot : Snapshot) : Prop :=
  Snapshot.ofDocument notification.doc = .ok snapshot

/-- The resource that is shown is to be deleted. -/
def IsGoing (notification : Notification) : Prop :=
  ∃ deletion, notification.doc.deletionTimestamp = .ok deletion ∧ deletion.isBlank = false

/-- The controller takes notice. -/
def noticed {ω : Type} [World ω] (notification : Notification) : Control ω Unit :=
  Control.notice notification.type notification.body

theorem HasMetadata.exists_member {notification : Notification} (readable : notification.HasMetadata)
    (name : String) : ∃ value, notification.doc.metadataMember name = .ok value := by
  obtain ⟨fields, metadata, body_eq, found⟩ := readable
  refine ⟨(metadata.get? name).getD .null, ?_⟩
  rw [doc, body_eq]
  simp only [Control.shown, Cluster.documentOf, Document.ofObject, Document.metadataMember,
    Value.memberOr, found]
  rfl

theorem HasMetadata.exists_picture {notification : Notification}
    (readable : notification.HasMetadata) : ∃ snapshot, notification.Pictures snapshot := by
  obtain ⟨value, stated⟩ := readable.exists_member "generation"
  have generation : ∃ generation, notification.doc.generation = .ok generation := by
    unfold Document.generation
    rw [stated, show Except.ok value = pure value from rfl, pure_bind]
    split <;> exact ⟨_, rfl⟩
  obtain ⟨generation, generation_eq⟩ := generation
  obtain ⟨fields, metadata, body_eq, -⟩ := readable
  have spec_eq : notification.doc.object.member "spec" = .ok ((fields.get? "spec").getD .null) := by
    rw [doc, body_eq]
    rfl
  refine ⟨⟨generation, (fields.get? "spec").getD .null⟩, ?_⟩
  rw [Pictures, Snapshot.ofDocument, generation_eq, spec_eq]
  rfl

end Notification

/-- What was last shown of a resource that was not deleted since. -/
def LastShown (past : List Notification) (ref : ObjectRef) (snapshot : Snapshot) : Prop :=
  ∃ earlier notification later,
    past = earlier ++ notification :: later ∧ notification.Shows ref ∧
      notification.Pictures snapshot ∧ ∀ n ∈ later, ¬n.Shows ref ∧ ¬n.Removes ref

section LastShown

variable {past : List Notification} {next : Notification} {ref : ObjectRef} {snapshot : Snapshot}

@[simp]
theorem not_lastShown_nil : ¬LastShown [] ref snapshot := by
  rintro ⟨earlier, notification, later, split, -⟩
  simp at split

theorem lastShown_concat_of_shows (shows_ref : next.Shows ref) :
    LastShown (past ++ [next]) ref snapshot ↔ next.Pictures snapshot := by
  constructor
  · rintro ⟨earlier, notification, later, split, -, pictured, since⟩
    rcases concat_eq_split split with ⟨-, rfl, -⟩ | ⟨middle, -, rfl⟩
    · exact pictured
    · exact ((since next (by simp)).1 shows_ref).elim
  · intro pictured
    exact ⟨past, next, [], rfl, shows_ref, pictured, by simp⟩

theorem lastShown_concat_of_not_shows (other : ¬next.Shows ref) :
    LastShown (past ++ [next]) ref snapshot ↔ LastShown past ref snapshot ∧ ¬next.Removes ref := by
  constructor
  · rintro ⟨earlier, notification, later, split, shown, pictured, since⟩
    rcases concat_eq_split split with ⟨-, rfl, -⟩ | ⟨middle, rfl, rfl⟩
    · exact (other shown).elim
    · have before : ∀ n ∈ middle, ¬n.Shows ref ∧ ¬n.Removes ref :=
        fun n member => since n (by simp [member])
      have kept := (since next (by simp)).2
      exact ⟨⟨earlier, notification, middle, rfl, shown, pictured, before⟩, kept⟩
  · rintro ⟨⟨earlier, notification, later, rfl, shown, pictured, since⟩, kept⟩
    refine ⟨earlier, notification, later ++ [next], by simp, shown, pictured, fun n member => ?_⟩
    rcases List.mem_append.mp member with before | last
    · exact since n before
    · rw [List.mem_singleton.mp last]
      exact ⟨other, kept⟩

end LastShown

/-- The event that a notification asks for, if any, after the past ones. -/
inductive Notification.Asks (past : List Notification) (next : Notification) :
    Option EventType → Prop where
  /-- A resource that is listed or was added is observed. -/
  | listed (added : next.type = none ∨ next.type = some "ADDED") : Asks past next (some .observe)
  /-- A resource that was modified, and is to be deleted, is deleted. -/
  | going (modified : next.type = some "MODIFIED") (isGoing : next.IsGoing) :
    Asks past next (some .delete)
  /-- A resource whose generation or desired state is not as it was last shown is updated. -/
  | changed (modified : next.type = some "MODIFIED") (stays : ¬next.IsGoing)
    {previous current : Snapshot} (last : LastShown past next.ref previous)
    (now : next.Pictures current)
    (differs : previous.generation.equal current.generation = false ∨
      previous.spec.equal current.spec = false) : Asks past next (some .update)
  /-- A resource that was not shown before, or is as it was last shown, is observed. -/
  | unchanged (modified : next.type = some "MODIFIED") (stays : ¬next.IsGoing)
    (same : ∀ previous current, LastShown past next.ref previous → next.Pictures current →
      previous.generation.equal current.generation = true ∧
        previous.spec.equal current.spec = true) : Asks past next (some .observe)
  /-- A deletion, and a notification of another type, asks for nothing. -/
  | silent (other : next.type ∉ [none, some "ADDED", some "MODIFIED"]) : Asks past next none

/-- A notification asks for one thing only. -/
theorem Notification.Asks.unique {past : List Notification} {next : Notification}
    {asked also : Option EventType} (asks : next.Asks past asked) (also_asks : next.Asks past also) :
    asked = also := by
  cases asks with
  | listed added =>
      cases also_asks with
      | listed => rfl
      | silent other => simp at other; tauto
      | _ modified => simp [modified] at added
  | going modified isGoing =>
      cases also_asks with
      | listed added => simp [modified] at added
      | going => rfl
      | silent other => simp [modified] at other
      | _ modified stays => exact (stays isGoing).elim
  | changed modified stays last now differs =>
      cases also_asks with
      | listed added => simp [modified] at added
      | going modified isGoing => exact (stays isGoing).elim
      | changed => rfl
      | unchanged modified stays same => simp [same _ _ last now] at differs
      | silent other => simp [modified] at other
  | unchanged modified stays same =>
      cases also_asks with
      | listed added => rfl
      | going modified isGoing => exact (stays isGoing).elim
      | changed modified stays last now differs => simp [same _ _ last now] at differs
      | unchanged => rfl
      | silent other => simp [modified] at other
  | silent other =>
      cases also_asks with
      | listed added => simp at other; tauto
      | silent => rfl
      | _ modified => simp [modified] at other

/-- From a state to a later one, an event of a type is added for a resource under a fresh identifier, or
none; nothing else becomes of the queue and of the world outside. -/
def Adds {ω : Type} [World ω] (ref : ObjectRef) (s t : ControlState ω) : Option EventType → Prop
  | none => t.queue = s.queue ∧ t.session.world = s.session.world
  | some type =>
    t.queue = s.queue.add ⟨type, ref, (World.freshId s.session.world).1⟩ ∧
      t.session.world = (World.freshId s.session.world).2

/-- A state of a controller after some notifications; whatever else it does between them leaves the known
resources as they are. -/
inductive Watched {ω : Type} [World ω] : List Notification → ControlState ω → Prop where
  /-- The start. -/
  | start (session : Session ω) (limiter : RateLimiter Event Number) :
    Watched [] (.start session limiter)
  /-- A notification comes. -/
  | notice {past : List Notification} {s : ControlState ω} (watched : Watched past s)
    (next : Notification) (readable : next.HasMetadata) :
    Watched (past ++ [next]) (final next.noticed s)
  /-- Something else happens, such as the work on an event, or the end of the controller. -/
  | beside {past : List Notification} {s : ControlState ω} (watched : Watched past s)
    (t : ControlState ω) (known_eq : t.known = s.known) : Watched past t

section Noticing

variable {ω : Type} [World ω] {past : List Notification} {next : Notification} {s : ControlState ω}

/-- Work of a controller that may add an event for a resource, and changes what is known in a given
way. -/
structure Handles (act : Control ω Unit) (ref : ObjectRef) (asked : Option EventType)
    (s : ControlState ω) (known : List (ObjectRef × Snapshot)) : Prop where
  /-- It succeeds. -/
  answer_eq : answer act s = .ok ()
  /-- The known resources are the given ones. -/
  known_eq : (final act s).known = known
  /-- Events are accepted as before. -/
  accepting_eq : (final act s).isAccepting = s.isAccepting
  /-- What is asked for is added while events are accepted. -/
  adds : s.isAccepting = true → Adds ref s (final act s) asked
  /-- Nothing is added when they are not. -/
  adds_none : s.isAccepting = false → Adds ref s (final act s) none

theorem handles_enqueue (type : EventType) (ref : ObjectRef) (s : ControlState ω) :
    Handles (Control.enqueue type ref) ref (some type) s s.known := by
  unfold Control.enqueue
  cases accepting : s.isAccepting with
  | true =>
      constructor <;>
        simp only [answer_bind, final_bind, answer_get, final_get, accepting, if_true, reduceCtorEq,
          false_implies]
      · rfl
      · rfl
      · exact accepting
      · exact fun _ => ⟨rfl, rfl⟩
  | false =>
      constructor <;> simp [answer_bind, final_bind, accepting, Adds]

section Before

variable {act : Control ω Unit} {ref : ObjectRef} {asked : Option EventType}
  {known : List (ObjectRef × Snapshot)}

/-- What is known is changed before an event is added. -/
theorem Handles.after_onKnown {change : List (ObjectRef × Snapshot) → List (ObjectRef × Snapshot)}
    (handles : Handles act ref asked { s with known := change s.known } known) :
    Handles (do Control.onKnown change; act) ref asked s known :=
  ⟨handles.answer_eq, handles.known_eq, handles.accepting_eq, handles.adds, handles.adds_none⟩

/-- Something that does not fail is computed before. -/
theorem Handles.after_ofExcept {α : Type} {outcome : Except Failure α} {a : α}
    {next : α → Control ω Unit} (handles : Handles (next a) ref asked s known)
    (succeeds : outcome = .ok a) : Handles (do next (← ofExcept outcome)) ref asked s known := by
  subst succeeds
  exact ⟨handles.answer_eq, handles.known_eq, handles.accepting_eq, handles.adds, handles.adds_none⟩

/-- The state is read before. -/
theorem Handles.after_get {next : ControlState ω → Control ω Unit}
    (handles : Handles (next s) ref asked s known) :
    Handles (do next (← get)) ref asked s known :=
  ⟨handles.answer_eq, handles.known_eq, handles.accepting_eq, handles.adds, handles.adds_none⟩

end Before

section Types

variable {snapshot : Snapshot}

theorem handles_noticeAdded (pictured : next.Pictures snapshot) :
    Handles (Control.noticeAdded next.body) next.ref (some .observe) s
      (ControlState.remember next.ref snapshot s.known) := by
  unfold Control.noticeAdded
  refine Handles.after_ofExcept ?_ pictured
  exact (handles_enqueue .observe next.ref _).after_onKnown

theorem handles_noticeModified (pictured : next.Pictures snapshot) {deletion : Value}
    (stated : next.doc.deletionTimestamp = .ok deletion) :
    Handles (Control.noticeModified next.body) next.ref
      (some (Control.eventTypeFor deletion (s.known.lookup next.ref) snapshot)) s
      (ControlState.remember next.ref snapshot s.known) := by
  unfold Control.noticeModified
  refine Handles.after_ofExcept (Handles.after_get (Handles.after_onKnown ?_)) pictured
  refine Handles.after_ofExcept ?_ stated
  exact handles_enqueue _ next.ref _

theorem handles_noticeDeleted :
    Handles (Control.noticeDeleted next.body) next.ref none s
      (ControlState.forget next.ref s.known) := by
  exact ⟨rfl, rfl, rfl, fun _ => ⟨rfl, rfl⟩, fun _ => ⟨rfl, rfl⟩⟩

theorem handles_log (level : Level) (text : String) (ref : ObjectRef) :
    Handles (log level text) ref none s s.known := by
  exact ⟨rfl, rfl, rfl, fun _ => ⟨rfl, rfl⟩, fun _ => ⟨rfl, rfl⟩⟩

end Types

/-! ## What is known -/

/-- A table holds what was last shown of each resource, once. -/
structure Follows (past : List Notification) (known : List (ObjectRef × Snapshot)) : Prop where
  /-- A snapshot is known of a resource exactly when it was the last one shown. -/
  lookup_iff : ∀ ref snapshot, known.lookup ref = some snapshot ↔ LastShown past ref snapshot
  /-- No resource is known twice. -/
  nodup : (known.map Prod.fst).Nodup

namespace Follows

variable {known : List (ObjectRef × Snapshot)}

theorem start : Follows [] [] :=
  ⟨by simp, List.nodup_nil⟩

theorem remember (follows : Follows past known) (shown : next.Shows next.ref) {snapshot : Snapshot}
    (pictured : next.Pictures snapshot) :
    Follows (past ++ [next]) (ControlState.remember next.ref snapshot known) := by
  refine ⟨fun ref seen => ?_, ControlState.nodup_remember next.ref snapshot follows.nodup⟩
  rw [ControlState.lookup_remember]
  by_cases here : ref = next.ref
  · rw [if_pos here, here, lastShown_concat_of_shows shown, Option.some.injEq]
    constructor
    · rintro rfl
      exact pictured
    · exact fun also => Except.ok.inj (pictured.symm.trans also)
  · have other : ¬next.Shows ref := fun shows_ref => here shows_ref.2.symm
    have kept : ¬next.Removes ref := fun removes_ref => here removes_ref.2.symm
    rw [if_neg here, lastShown_concat_of_not_shows other, follows.lookup_iff]
    exact ⟨fun last => ⟨last, kept⟩, fun ⟨last, _⟩ => last⟩

theorem forget (follows : Follows past known) (deleted : next.type = some "DELETED") :
    Follows (past ++ [next]) (ControlState.forget next.ref known) := by
  refine ⟨fun ref seen => ?_, ControlState.nodup_forget next.ref follows.nodup⟩
  have other : ¬next.Shows ref := by
    rintro ⟨type, -⟩
    simp [deleted] at type
  rw [ControlState.lookup_forget, lastShown_concat_of_not_shows other, ← follows.lookup_iff]
  by_cases here : ref = next.ref
  · simp [here, Notification.Removes, deleted]
  · have kept : ¬next.Removes ref := fun removes_ref => here removes_ref.2.symm
    simp [here, kept]

theorem ignore (follows : Follows past known)
    (other : next.type ∉ [none, some "ADDED", some "MODIFIED", some "DELETED"]) :
    Follows (past ++ [next]) known := by
  refine ⟨fun ref seen => ?_, follows.nodup⟩
  have not_shown : ¬next.Shows ref := by
    rintro ⟨type | type | type, -⟩ <;> simp [type] at other
  have kept : ¬next.Removes ref := by
    rintro ⟨type, -⟩
    simp [type] at other
  rw [lastShown_concat_of_not_shows not_shown, follows.lookup_iff]
  exact ⟨fun last => ⟨last, kept⟩, fun ⟨last, _⟩ => last⟩

/-- What a modified resource asks for is told from what was last shown of it. -/
theorem asks_eventTypeFor (follows : Follows past known) (modified : next.type = some "MODIFIED")
    {current : Snapshot} (pictured : next.Pictures current) {deletion : Value}
    (stated : next.doc.deletionTimestamp = .ok deletion) :
    next.Asks past (some (Control.eventTypeFor deletion (known.lookup next.ref) current)) := by
  unfold Control.eventTypeFor
  cases blank : deletion.isBlank with
  | false => exact .going modified ⟨deletion, stated, blank⟩
  | true =>
      have stays : ¬next.IsGoing := by
        rintro ⟨also, also_stated, not_blank⟩
        obtain rfl := Except.ok.inj (stated.symm.trans also_stated)
        simp [blank] at not_blank
      cases found : known.lookup next.ref with
      | none =>
          refine .unchanged modified stays fun previous now last _ => ?_
          simp [(follows.lookup_iff _ _).mpr last] at found
      | some previous =>
          have last := (follows.lookup_iff _ _).mp found
          cases equal : previous.equal current with
          | true =>
              simp only [equal]
              refine .unchanged modified stays fun before now also_last also_pictured => ?_
              obtain rfl := Option.some.inj (found.symm.trans ((follows.lookup_iff _ _).mpr also_last))
              obtain rfl := Except.ok.inj (pictured.symm.trans also_pictured)
              simpa [Snapshot.equal] using equal
          | false =>
              simp only [equal]
              exact .changed modified stays last pictured (Bool.and_eq_false_iff.mp equal)

/-- A notification adds the event that it asks for, and what is known follows it. -/
theorem noticed (follows : Follows past s.known) (readable : next.HasMetadata) :
    ∃ asked known, next.Asks past asked ∧ Handles next.noticed next.ref asked s known ∧
      Follows (past ++ [next]) known := by
  obtain ⟨snapshot, pictured⟩ := readable.exists_picture
  obtain ⟨deletion, stated⟩ := readable.exists_member "deletionTimestamp"
  unfold Notification.noticed Control.notice
  split
  next listed =>
    exact ⟨_, _, .listed (.inl listed), handles_noticeAdded pictured,
      follows.remember ⟨.inl listed, rfl⟩ pictured⟩
  next added =>
    exact ⟨_, _, .listed (.inr added), handles_noticeAdded pictured,
      follows.remember ⟨.inr (.inl added), rfl⟩ pictured⟩
  next modified =>
    exact ⟨_, _, follows.asks_eventTypeFor modified pictured stated,
      handles_noticeModified pictured stated, follows.remember ⟨.inr (.inr modified), rfl⟩ pictured⟩
  next deleted =>
    exact ⟨none, _, .silent (by simp [deleted]), handles_noticeDeleted, follows.forget deleted⟩
  next other not_added not_modified not_deleted type =>
    have others : next.type ∉ [none, some "ADDED", some "MODIFIED", some "DELETED"] := by
      simpa [type] using ⟨not_added, not_modified, not_deleted⟩
    have silent : next.type ∉ [none, some "ADDED", some "MODIFIED"] := fun member =>
      others (by simp at member ⊢; tauto)
    exact ⟨none, _, .silent silent, handles_log _ _ _, follows.ignore others⟩

end Follows

theorem Watched.follows (watched : Watched past s) : Follows past s.known := by
  induction watched with
  | start session limiter => exact .start
  | notice watched next readable ih =>
      obtain ⟨asked, known, -, handles, follows⟩ := ih.noticed readable
      rw [handles.known_eq]
      exact follows
  | beside watched t known_eq ih => exact known_eq ▸ ih

/-! ## Work between notifications -/

namespace Watched

variable (controller : Controller ω)

/-- The work of the workers lies beside the notifications. -/
theorem workOff (watched : Watched past s) (bound : Nat) :
    Watched past (final (controller.workOff bound) s) :=
  .beside watched _ (BesideWork.keeps_workOff controller (fun _ _ _ => rfl) bound s)

/-- The rounds over all known resources lie beside the notifications. -/
theorem resync (watched : Watched past s) : Watched past (final Control.resync s) :=
  .beside watched _ (BesideWork.keeps_resync (fun _ _ _ => rfl) s)

/-- The end of the controller lies beside the notifications. -/
theorem stop (watched : Watched past s) : Watched past (final controller.stop s) :=
  .beside watched _ (BesideWork.final_stop controller (fun _ _ _ => rfl) s)

end Watched

/-- After any past of notifications, whatever else the controller does between them, the known resources
are those that were shown and not deleted since, with what was last shown of them.  The next notification
adds the one event that it asks for after this past, and none when events are not accepted any more. -/
theorem notices_classified (watched : Watched past s) :
    (∀ ref snapshot, s.known.lookup ref = some snapshot ↔ LastShown past ref snapshot) ∧
    (∃ refs, answer Control.knownRefs s = .ok refs ∧ refs.Nodup ∧
      ∀ ref, ref ∈ refs ↔ ∃ snapshot, LastShown past ref snapshot) ∧
    ∀ next : Notification, next.HasMetadata →
      answer next.noticed s = .ok () ∧
      (final next.noticed s).isAccepting = s.isAccepting ∧
      (∃ asked, next.Asks past asked) ∧
      (s.isAccepting = true → ∀ asked, next.Asks past asked →
        Adds next.ref s (final next.noticed s) asked) ∧
      (s.isAccepting = false → Adds next.ref s (final next.noticed s) none) := by
  have follows := watched.follows
  refine ⟨follows.lookup_iff, ⟨_, rfl, follows.nodup, fun ref => ?_⟩, fun next readable => ?_⟩
  · simp only [ControlState.mem_keys_iff, follows.lookup_iff]
  · obtain ⟨asked, known, asks, handles, -⟩ := follows.noticed readable
    refine ⟨handles.answer_eq, handles.accepting_eq, ⟨asked, asks⟩, fun accepting also also_asks => ?_,
      handles.adds_none⟩
    rw [also_asks.unique asks]
    exact handles.adds accepting

end Noticing

/-- A controller that finds each resource as desired. -/
def Controller.content : Controller Lone where
  handler := ⟨pure true, pure (), pure (), pure ()⟩
  resource := ⟨"example.com", "v1", "repos"⟩
  recorder := .standard false
  options := .standard

/-- A notification about a repository of a generation with a description. -/
def Notification.ofRepo (type : String) (generation : Int) (description : String) : Notification :=
  ⟨some type,
    .ofFields
      [("metadata", .ofFields [("name", .text "first"), ("generation", .int generation)]),
        ("spec", .ofFields [("description", .text description)])]⟩

/-- After a repository was added, worked on and seen in a round over all resources, a change of it asks for
an update; once the controller was stopped, the change adds nothing. -/
theorem notices_classified_changed :
    let added := Notification.ofRepo "ADDED" 1 "old"
    let changed := Notification.ofRepo "MODIFIED" 2 "new"
    let start := ControlState.start (Lone.session (.ok .null) (.whole 0)) (.standard (.whole 0))
    let observed :=
      final Control.resync (final (Controller.content.workOff 1) (final added.noticed start))
    let stopped := final Controller.content.stop observed
    Watched [added] observed ∧ Watched [added] stopped ∧ changed.HasMetadata ∧
      changed.Asks [added] (some .update) ∧
      Adds changed.ref observed (final changed.noticed observed) (some .update) ∧
      Adds changed.ref stopped (final changed.noticed stopped) none := by
  intro added changed start observed stopped
  have started : Watched [] start := .start _ _
  have shown : added.HasMetadata := ⟨_, _, rfl, rfl⟩
  have watched : Watched [added] observed :=
    ((Watched.notice started added shown).workOff Controller.content 1).resync
  have stopped_watched : Watched [added] stopped := watched.stop Controller.content
  have readable : changed.HasMetadata := ⟨_, _, rfl, rfl⟩
  have last : LastShown [added] changed.ref ⟨.int 1, .ofFields [("description", .text "old")]⟩ :=
    ⟨[], added, [], rfl, ⟨.inr (.inl rfl), rfl⟩, rfl, by simp⟩
  have asks : changed.Asks [added] (some .update) := by
    refine .changed rfl ?_ last rfl (.inl rfl)
    rintro ⟨deletion, stated, not_blank⟩
    obtain rfl : Value.null = deletion := Except.ok.inj stated
    simp [Value.isBlank, Scalar.isBlank] at not_blank
  have beside : BesideWork (ControlState.isAccepting : ControlState Lone → Bool) := fun _ _ _ => rfl
  obtain ⟨-, accepts, -⟩ := (notices_classified started).2.2 added shown
  have accepting : observed.isAccepting = true :=
    (beside.keeps_resync _).trans ((beside.keeps_workOff Controller.content 1 _).trans accepts)
  have refusing : stopped.isAccepting = false := beside.final_stop Controller.content observed
  obtain ⟨-, -, -, adds, -⟩ := (notices_classified watched).2.2 changed readable
  obtain ⟨-, -, -, -, adds_none⟩ := (notices_classified stopped_watched).2.2 changed readable
  exact ⟨watched, stopped_watched, readable, asks, adds accepting _ asks, adds_none refusing⟩

end Reconciler
