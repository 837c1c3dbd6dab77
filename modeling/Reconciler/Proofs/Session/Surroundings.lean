import Reconciler.Proofs.Session.Record

/-!
# Surroundings that stand still

While the operator only looks around, the cluster and the chart engine may be taken to stand still: kinds
are found, an object is read or answered to be absent, and a release exists or not.  A world outside that
records which objects are read shows how far the operator looked.
-/

namespace Reconciler

/-! ## Objects that are read -/

/-- An object as it is asked for. -/
inductive Reading where
  /-- An object of a group. -/
  | object (resource : GroupVersionResource) (namespace_ name : String)
  /-- An object of the core group. -/
  | core (resource name : String) (namespace_ : Option String)
deriving DecidableEq, Repr

/-- The objects that a call to the cluster reads. -/
def ClusterCall.readings {α : Type} : ClusterCall α → List Reading
  | .get resource namespace_ name => [.object resource namespace_ name]
  | .getCore resource name namespace_ => [.core resource name namespace_]
  | _ => []

/-- A world outside, and the objects that were read so far. -/
structure Inspected (ω : Type) where
  /-- The world outside. -/
  world : ω
  /-- The readings in their order. -/
  readings : List Reading

instance {ω : Type} [World ω] : World (Inspected ω) where
  cluster call inspected :=
    ((World.cluster call inspected.world).1,
      ⟨(World.cluster call inspected.world).2, inspected.readings ++ call.readings⟩)
  wire call inspected :=
    ((World.wire call inspected.world).1,
      { inspected with world := (World.wire call inspected.world).2 })
  chart call inspected :=
    ((World.chart call inspected.world).1,
      { inspected with world := (World.chart call inspected.world).2 })
  file inspected := World.file inspected.world
  wallClock inspected := World.wallClock inspected.world
  steadyClock inspected := World.steadyClock inspected.world
  freshId inspected :=
    ((World.freshId inspected.world).1, { inspected with world := (World.freshId inspected.world).2 })

/-- The objects that were read so far, in a world that records the writes to the cluster as well. -/
def Session.readings {ω : Type} (session : Session (Recorded (Inspected ω))) : List Reading :=
  session.world.world.readings

namespace Inspected

variable {ω α : Type} [World ω]

/-- A call that reads no object does not show in the readings. -/
theorem keeps_cluster {call : ClusterCall α} (blind : call.readings = []) :
    Keeps Session.readings (Work.cluster (ω := Recorded (Inspected ω)) call) := by
  intro session
  rw [Work.cluster, final_ask]
  exact (congrArg (session.readings ++ ·) blind).trans (List.append_nil _)

omit [World ω] in
theorem keeps_metered (operation : String) {call : Work (Recorded (Inspected ω)) α}
    (kept : Keeps Session.readings call) : Keeps Session.readings (Cluster.metered operation call) := by
  have counted (metric : Metric) :
      Keeps Session.readings (count (σ := Session (Recorded (Inspected ω))) metric) := fun _ => rfl
  exact keeps_bind (keeps_attempt kept) fun _ => keeps_bind (counted _) fun _ =>
    keeps_bind (counted _) fun _ => keeps_ofExcept _

omit [World ω] in
theorem keeps_requireDiscovery (need : AbsentClient) :
    Keeps Session.readings (Cluster.requireDiscovery (ω := Recorded (Inspected ω)) need) := by
  refine keeps_bind keeps_get fun session => ?_
  split
  · exact keeps_pure _
  · exact keeps_throw _

/-- Writing an observed state reads no object. -/
theorem keeps_updateStatus (doc : Document) :
    Keeps Session.readings (Cluster.updateStatus (ω := Recorded (Inspected ω)) doc) := by
  have placed (kind : GroupVersionKind) :
      Keeps Session.readings (Cluster.resourceOf (ω := Recorded (Inspected ω)) kind) :=
    keeps_bind (keeps_requireDiscovery _) fun _ =>
      keeps_bind (keeps_metered _ (keeps_cluster rfl)) fun _ => keeps_pure _
  exact keeps_bind (keeps_bind (keeps_ofExcept _) placed) fun resource =>
    keeps_bind (keeps_metered _ (keeps_cluster rfl)) fun _ => keeps_pure _

end Inspected

/-! ## What stands still -/

/-- What the cluster and the chart engine answer while nothing changes. -/
structure Surroundings where
  /-- The resource name of a kind, by the version that it is asked for with. -/
  nameOf : String → String → String
  /-- The name of a resource of the core group, by its version. -/
  coreNameOf : String → String → String
  /-- The objects that exist. -/
  stored? : Reading → Option Value
  /-- The charts of resources. -/
  chartOf : Document → ChartInfo
  /-- A release of a name exists in a namespace. -/
  isReleased : String → String → Bool
  /-- The manifest of a release with values. -/
  manifest : Release → Fields → List UInt8

namespace Surroundings

/-- An answer gives an object that exists, or says that it does not. -/
def Gives (object? : Option Value) (outcome : Except Failure Value) : Prop :=
  match object? with
  | some object => outcome = .ok object
  | none => ∃ failure, outcome = .error failure ∧ failure.isAbsent = true

variable {ω : Type} [World ω]

/-- A world outside answers as the surroundings say, and stands still when it is asked.  A status that is
written to it is stored. -/
structure Hold (surroundings : Surroundings) (still : ω → Prop) : Prop where
  /-- Kinds are found. -/
  kinds {w : ω} (here : still w) (apiVersion kind : String) :
    (World.cluster (.discoverKind apiVersion kind) w).1 = .ok (surroundings.nameOf apiVersion kind) ∧
      still (World.cluster (.discoverKind apiVersion kind) w).2
  /-- Resources of the core group are found. -/
  names {w : ω} (here : still w) (apiVersion name : String) :
    (World.cluster (.discoverName apiVersion name) w).1 =
        .ok (surroundings.coreNameOf apiVersion name) ∧
      still (World.cluster (.discoverName apiVersion name) w).2
  /-- Objects are read, or answered to be absent. -/
  objects {w : ω} (here : still w) (resource : GroupVersionResource) (namespace_ name : String) :
    Gives (surroundings.stored? (.object resource namespace_ name))
        (World.cluster (.get resource namespace_ name) w).1 ∧
      still (World.cluster (.get resource namespace_ name) w).2
  /-- So are objects of the core group. -/
  coreObjects {w : ω} (here : still w) (resource name : String) (namespace_ : Option String) :
    Gives (surroundings.stored? (.core resource name namespace_))
        (World.cluster (.getCore resource name namespace_) w).1 ∧
      still (World.cluster (.getCore resource name namespace_) w).2
  /-- Charts are found. -/
  charts {w : ω} (here : still w) (doc : Document) :
    (World.chart (.info doc) w).1 = .ok (surroundings.chartOf doc) ∧
      still (World.chart (.info doc) w).2
  /-- Releases are found when they exist. -/
  releases {w : ω} (here : still w) (name namespace_ : String) :
    (if surroundings.isReleased name namespace_ then
        (World.chart (.find name namespace_) w).1 = .ok ()
      else ∃ text, (World.chart (.find name namespace_) w).1 = .error (.releaseNotFound text)) ∧
      still (World.chart (.find name namespace_) w).2
  /-- Manifests are rendered. -/
  renders {w : ω} (here : still w) (release : Release) (values : Fields) :
    (World.chart (.render release values) w).1 = .ok (surroundings.manifest release values) ∧
      still (World.chart (.render release values) w).2
  /-- A status is stored, and the answer has metadata that can be read. -/
  accepts {w : ω} (here : still w) (resource : GroupVersionResource) (namespace_ name : String)
    {body : Value} (room : body.HasRoom "metadata") :
    ∃ stored version, (World.cluster (.replaceStatus resource namespace_ name body) w).1 =
        .ok stored ∧
      (Cluster.documentOf stored).metadataMember "resourceVersion" = .ok version

/-- The coordinates of the resource of a kind. -/
def resourceOf (surroundings : Surroundings) (kind : GroupVersionKind) : GroupVersionResource :=
  ⟨kind.group, kind.version, surroundings.nameOf kind.apiVersion kind.kind⟩

/-- How an object is asked for. -/
def reading (surroundings : Surroundings) (resource : GroupVersionResource)
    (namespace_ name : String) : Reading :=
  if resource.group.isEmpty then
    .core (surroundings.coreNameOf resource.version resource.resource) name
      (if namespace_.isEmpty then none else some namespace_)
  else .object resource namespace_ name

end Surroundings

/-- A session whose world stands still, in which kinds can be discovered, after some readings. -/
structure Session.Stands {ω : Type} (still : ω → Prop) (readings : List Reading)
    (session : Session (Recorded (Inspected ω))) : Prop where
  /-- The world stands still. -/
  still : still session.world.world.world
  /-- The readings so far. -/
  readings : session.readings = readings
  /-- Kinds can be discovered. -/
  discovers : session.means.discovers = true

/-! ## Looking around -/

/-- Work only looks around: its outcome is of a kind, it reads some objects, and the world stands still. -/
def Looks {ω α : Type} (still : ω → Prop) (work : Work (Recorded (Inspected ω)) α)
    (outcome : Except Failure α → Prop) (read : List Reading) : Prop :=
  ∀ (readings : List Reading) (session : Session (Recorded (Inspected ω))),
    session.Stands still readings →
      outcome (answer work session) ∧ (final work session).Stands still (readings ++ read)

namespace Looks

variable {ω α β : Type} {still : ω → Prop} {work : Work (Recorded (Inspected ω)) α}
  {outcome : Except Failure α → Prop} {read more : List Reading}

theorem mono {weaker : Except Failure α → Prop} (looks : Looks still work outcome read)
    (implied : ∀ o, outcome o → weaker o) : Looks still work weaker read :=
  fun readings session stands =>
    (looks readings session stands).imp_left (implied _)

protected theorem ofExcept (o : Except Failure α) : Looks still (ofExcept o) (· = o) [] := by
  intro readings session stands
  rw [final_ofExcept, List.append_nil]
  exact ⟨answer_ofExcept o session, stands⟩

protected theorem pure (a : α) : Looks still (pure a) (· = .ok a) [] :=
  .ofExcept (.ok a)

theorem report (change : Telemetry → Telemetry) :
    Looks still (Reconciler.report change) (· = .ok ()) [] := by
  intro readings session stands
  rw [List.append_nil]
  exact ⟨answer_report session change, stands.still, stands.readings, stands.discovers⟩

/-- Work that follows may depend on an answer. -/
theorem bind {P : α → Prop} {next : α → Work (Recorded (Inspected ω)) β}
    {ends : Except Failure β → Prop} (first : Looks still work (fun o => ∃ a, o = .ok a ∧ P a) read)
    (rest : ∀ a, P a → Looks still (next a) ends more) :
    Looks still (work >>= next) ends (read ++ more) := by
  intro readings session stands
  obtain ⟨⟨a, answered, own⟩, left⟩ := first readings session stands
  rw [answer_bind_ok answered, final_bind_ok answered, ← List.append_assoc]
  exact rest a own _ _ left

theorem bind_ok {a : α} {next : α → Work (Recorded (Inspected ω)) β} {ends : Except Failure β → Prop}
    (first : Looks still work (· = .ok a) read) (rest : Looks still (next a) ends more) :
    Looks still (work >>= next) ends (read ++ more) :=
  bind (P := (· = a)) (first.mono fun _ same => ⟨a, same, rfl⟩) fun _ same => same ▸ rest

theorem attempt (looks : Looks still work outcome read) :
    Looks still (Reconciler.attempt work) (fun o => ∃ told, o = .ok told ∧ outcome told) read := by
  intro readings session stands
  rw [answer_attempt, final_attempt]
  exact (looks readings session stands).imp_left fun own => ⟨_, rfl, own⟩

/-- What is made of an answer does not look again. -/
theorem mapped {f : α → β} (looks : Looks still work outcome read) :
    Looks still (do pure (f (← work))) (fun o => ∃ given, o = Except.map f given ∧ outcome given)
      read := by
  intro readings session stands
  rw [answer_bind_pure, final_bind_pure]
  exact (looks readings session stands).imp_left fun own => ⟨_, rfl, own⟩

/-- A call that is counted answers as it does alone. -/
theorem metered (operation : String) (looks : Looks still work outcome read) :
    Looks still (Cluster.metered operation work) outcome read := by
  have counted (told : Except Failure α) : Looks still (do
      count (.calls .cluster operation (if told.isOk then .success else .error))
      count (.callTimes .cluster operation)
      ofExcept told) (· = told) [] :=
    bind_ok (report _) (bind_ok (report _) (.ofExcept told))
  have both := bind looks.attempt fun told own => (counted told).mono fun o same => same ▸ own
  rw [List.append_nil] at both
  exact both

/-- A question to the cluster reads the objects that it names. -/
theorem cluster [World ω] {call : ClusterCall α}
    (answers : ∀ w, still w → outcome (World.cluster call w).1 ∧ still (World.cluster call w).2) :
    Looks still (Work.cluster call) outcome call.readings := by
  intro readings session stands
  obtain ⟨own, left⟩ := answers _ stands.still
  rw [Work.cluster, answer_ask, final_ask]
  exact ⟨own, left, congrArg (· ++ call.readings) stands.readings, stands.discovers⟩

theorem chart [World ω] {call : ChartCall α}
    (answers : ∀ w, still w → outcome (World.chart call w).1 ∧ still (World.chart call w).2) :
    Looks still (Work.chart call) outcome [] := by
  intro readings session stands
  obtain ⟨own, left⟩ := answers _ stands.still
  rw [Work.chart, answer_ask, final_ask, List.append_nil]
  exact ⟨own, left, stands.readings, stands.discovers⟩

theorem requireDiscovery (need : AbsentClient) :
    Looks still (Cluster.requireDiscovery need) (· = .ok ()) [] := by
  intro readings session stands
  unfold Cluster.requireDiscovery
  rw [answer_bind_ok (answer_get session), final_bind_ok (answer_get session), final_get,
    if_pos stands.discovers, List.append_nil]
  exact ⟨rfl, stands⟩

end Looks

namespace Surroundings.Hold

variable {ω : Type} [World ω] {still : ω → Prop} {surroundings : Surroundings}
  (hold : surroundings.Hold still)
include hold

theorem looks_resourceOf (kind : GroupVersionKind) :
    Looks still (Cluster.resourceOf kind) (· = .ok (surroundings.resourceOf kind)) [] := by
  have asked : Looks still (Work.cluster (.discoverKind kind.apiVersion kind.kind))
      (· = .ok (surroundings.nameOf kind.apiVersion kind.kind)) [] :=
    .cluster fun w here => hold.kinds here _ _
  exact .bind_ok (.requireDiscovery _) (.bind_ok (asked.metered _) (.pure _))

/-- An object is read once, and given when it exists. -/
theorem looks_read (resource : GroupVersionResource) (namespace_ name : String) :
    Looks still (Cluster.read resource namespace_ name)
      (fun o => ∃ given, o = Except.map Cluster.documentOf given ∧
        Gives (surroundings.stored? (surroundings.reading resource namespace_ name)) given)
      [surroundings.reading resource namespace_ name] := by
  unfold Cluster.read Cluster.readCore reading
  split
  · have found : Looks still (Work.cluster (.discoverName resource.version resource.resource))
        (· = .ok (surroundings.coreNameOf resource.version resource.resource)) [] :=
      .cluster fun w here => hold.names here _ _
    have asked (place : Option String) : Looks still
        (Work.cluster (.getCore (surroundings.coreNameOf resource.version resource.resource) name place))
        (Gives (surroundings.stored?
          (.core (surroundings.coreNameOf resource.version resource.resource) name place)))
        [.core (surroundings.coreNameOf resource.version resource.resource) name place] :=
      .cluster fun w here => hold.coreObjects here _ name place
    exact .bind_ok (.requireDiscovery _) (.bind_ok found ((asked _).metered _).mapped)
  · have asked : Looks still (Work.cluster (.get resource namespace_ name))
        (Gives (surroundings.stored? (.object resource namespace_ name)))
        [.object resource namespace_ name] :=
      .cluster fun w here => hold.objects here resource namespace_ name
    exact (asked.metered _).mapped

end Surroundings.Hold

end Reconciler
