import Mathlib.Logic.Function.Basic
import Reconciler.Backend.Client
import Reconciler.Cluster.Definition
import Reconciler.Cluster.Ownership
import Reconciler.Cluster.Recorder
import Reconciler.Controller.Processing
import Reconciler.Description.Loading
import Reconciler.Proofs.Computation
import Reconciler.Reconciliation.Chart

/-!
# The parts of work in a session

All work in a session is put together from a few kinds of parts: a look at what can be seen without
asking, a question to the world outside, a notice, something that is kept, and a report.  Each function is
taken apart here once; what holds of all parts then holds of it.
-/

namespace Reconciler

/-- A metric counts retries, or events that are given up. -/
def Metric.isOfRetries : Metric → Bool
  | .requeues _ | .drops .. => true
  | _ => false

/-- A metric counts resources that differ from the desired state. -/
def Metric.isOfDrifts : Metric → Bool
  | .drifts _ => true
  | _ => false

/-- A metric counts single steps of work, and not what becomes of events or of external resources. -/
def Metric.isOfSteps (metric : Metric) : Bool :=
  !metric.isOfRetries && !metric.isOfDrifts

/-- A call to the cluster replaces an object or its observed state. -/
def ClusterCall.replaces {α : Type} : ClusterCall α → Bool
  | .replace .. | .replaceStatus .. => true
  | _ => false

/-- A call to the cluster posts a notice. -/
def ClusterCall.posts {α : Type} : ClusterCall α → Bool
  | .post _ => true
  | _ => false

/-- A call over the wire sends a request to a backend. -/
def WireCall.sends : WireCall → Bool
  | .send _ => true
  | .download .. => false

/-- What can be seen in a session without asking for anything. -/
structure Sight where
  /-- The means that the session was given. -/
  means : Means
  /-- The loaded API descriptions. -/
  descriptions : Cache Description Number
  /-- The resource descriptor that was read from its file. -/
  descriptor : Option Descriptor
  /-- The bytes of files. -/
  file : String → Except FileFault (List UInt8)
  /-- The time of day. -/
  wallClock : String
  /-- The seconds on a clock that is never set. -/
  steadyClock : Number

/-- What can be seen in a session. -/
def Session.sight {ω : Type} [World ω] (session : Session ω) : Sight :=
  ⟨session.means, session.descriptions, session.descriptor, World.file session.world,
    World.wallClock session.world, World.steadyClock session.world⟩

/-- What work may do besides looking, asking the cluster and reporting. -/
structure Permit where
  /-- It may replace objects of the cluster. -/
  writes : Bool
  /-- It may ask beyond the cluster, and keep what it was told. -/
  reaches : Bool
  /-- It may send requests to a backend. -/
  sends : Bool
  /-- It may edit the document at hand. -/
  edits : Bool

/-- Work may do everything. -/
def Permit.full : Permit :=
  ⟨true, true, true, true⟩

variable {ω : Type} [World ω]

/-- A part of work in a session. -/
inductive Work.Part (may : Permit) : (α : Type) → Work ω α → Prop where
  /-- A look at what can be seen. -/
  | look {α : Type} (see : Sight → α) : Part may α (do pure (see (← get).sight))
  /-- A question to the cluster. -/
  | cluster {α : Type} (call : ClusterCall α) (quiet : call.posts = false)
    (allowed : call.replaces = true → may.writes = true) : Part may α (Work.cluster call)
  /-- A notice, whether it can be posted or not. -/
  | emit (recorder : Recorder) (doc : Document) (reason message type : String) :
    Part may Unit (recorder.emit doc reason message type)
  /-- A question over the wire. -/
  | wire (allowed : may.reaches = true) (call : WireCall)
    (sending : call.sends = true → may.sends = true) : Part may HttpResponse (Work.wire call)
  /-- A question to the chart engine. -/
  | chart {α : Type} (allowed : may.reaches = true) (call : ChartCall α) :
    Part may α (Work.chart call)
  /-- Descriptions and a descriptor are kept. -/
  | keep (allowed : may.reaches = true)
    (descriptions : Cache Description Number → Cache Description Number)
    (descriptor : Option Descriptor → Option Descriptor) :
    Part may Unit (modify fun session =>
      { session with
        descriptions := descriptions session.descriptions
        descriptor := descriptor session.descriptor })
  /-- A log line. -/
  | log (level : Level) (text : String) : Part may Unit (Reconciler.log level text)
  /-- A log line about a step of a reconciliation. -/
  | logRecord (level : Level) (record : LogRecord) (additional : Fields) :
    Part may Unit (report (·.logRecord level record additional))
  /-- A count of a step. -/
  | count {metric : Metric} (step : metric.isOfSteps = true) :
    Part may Unit (Reconciler.count metric)
  /-- A change of the innermost span. -/
  | trace (change : Tracer → Tracer) : Part may Unit (inTrace change)

/-- Work in a session that is put together from parts. -/
abbrev Work.Made {α : Type} (may : Permit) (work : Work ω α) : Prop :=
  Composed (Work.Part may) work

namespace Work

variable {α β : Type} {may : Permit}

/-- Work that goes on from the session is put together from parts when it depends only on what can be
seen there. -/
theorem made_get {next : Session ω → Work ω β}
    (blind : ∀ s t : Session ω, s.sight = t.sight → next s = next t)
    (rest : ∀ session, Made may (next session)) : Made may (get >>= next) := by
  have factors : Function.FactorsThrough next Session.sight := fun s t => blind s t
  -- What is done on a sight that no session has does not matter.
  let other (_ : Sight) : Work ω β := throw (.shape .emptyPath)
  have same : (get >>= next) =
      (do pure (← get).sight : Work ω Sight) >>= Function.extend Session.sight next other := by
    funext session
    exact congrFun (factors.extend_apply other session).symm session
  rw [same]
  refine .bind (.part (.look id)) fun sight => ?_
  by_cases reached : ∃ session : Session ω, session.sight = sight
  · obtain ⟨session, rfl⟩ := reached
    rw [factors.extend_apply]
    exact rest session
  · rw [Function.extend_apply' _ _ _ reached]
    exact .throw _

/-- A question to the cluster that neither writes nor posts. -/
theorem made_ask {call : ClusterCall α} (quiet : call.posts = false) (reads : call.replaces = false) :
    Made may (Work.cluster (ω := ω) call) :=
  .part (.cluster call quiet fun replaces => by simp [reads] at replaces)

theorem made_file (path : String) : Made may (Work.file (ω := ω) path) := by
  unfold Work.file
  split
  · exact .part (.look fun sight => sight.file path)
  · exact .throw _

theorem made_inSpan (name kind : String) (attributes : Fields) {work : Work ω α}
    (made : Made may work) : Made may (inSpan name kind attributes work) := by
  refine .bind (.part (.trace _)) fun _ => .bind (.attempt made) fun outcome => ?_
  cases outcome with
  | ok a => exact .bind (.part (.trace _)) fun _ => .pure a
  | error failure => exact .bind (.part (.trace _)) fun _ => .throw failure

end Work

open Work

/-! ## The cluster -/

namespace Cluster

variable {α : Type} {may : Permit}

theorem made_metered (operation : String) {call : Work ω α} (made : Made may call) :
    Made may (metered operation call) :=
  .bind (.attempt made) fun outcome => .bind (.part (.count rfl)) fun _ =>
    .bind (.part (.count rfl)) fun _ => .ofExcept outcome

theorem made_requireDiscovery (need : AbsentClient) :
    Made may (requireDiscovery (ω := ω) need) := by
  refine made_get (fun s t same => ?_) fun session => ?_
  · rw [show s.means = t.means from congrArg Sight.means same]
  · split
    · exact .pure _
    · exact .throw _

theorem made_resourceOf (kind : GroupVersionKind) : Made may (resourceOf (ω := ω) kind) :=
  .bind (made_requireDiscovery _) fun _ =>
    .bind (made_metered _ (made_ask rfl rfl)) fun _ => .pure _

theorem made_resourceOfDocument (doc : Document) :
    Made may (resourceOfDocument (ω := ω) doc) :=
  .bind (.ofExcept _) fun kind => made_resourceOf kind

theorem made_read (resource : GroupVersionResource) (namespace_ name : String) :
    Made may (read (ω := ω) resource namespace_ name) := by
  unfold read
  split
  · refine .bind (made_requireDiscovery _) fun _ => .bind (made_ask rfl rfl) fun found => ?_
    exact .bind (made_metered _ (made_ask rfl rfl)) fun _ => .pure _
  · exact .bind (made_metered _ (made_ask rfl rfl)) fun _ => .pure _

theorem made_list (resource : GroupVersionResource) (namespace_ : Option String) :
    Made may (list (ω := ω) resource namespace_) :=
  .bind (made_metered _ (made_ask rfl rfl)) fun _ => .ofExcept _

theorem made_update (writes : may.writes = true) (doc : Document) :
    Made may (update (ω := ω) doc) :=
  .bind (made_resourceOfDocument doc) fun _ =>
    .bind (made_metered _ (.part (.cluster _ rfl fun _ => writes))) fun _ => .pure _

theorem made_updateStatus (writes : may.writes = true) (doc : Document) :
    Made may (updateStatus (ω := ω) doc) :=
  .bind (made_resourceOfDocument doc) fun _ =>
    .bind (made_metered _ (.part (.cluster _ rfl fun _ => writes))) fun _ => .pure _

theorem made_readSecret (namespace_ name key : String) :
    Made may (readSecret (ω := ω) namespace_ name key) := by
  refine made_get (fun s t same => ?_) fun session => ?_
  · rw [show s.means = t.means from congrArg Sight.means same]
  · split
    · refine made_metered _ (.bind (.attempt (made_ask rfl rfl)) fun outcome => ?_)
      cases outcome with
      | error failure => exact .throw _
      | ok data => exact .ofExcept _
    · exact .throw _

end Cluster

namespace Authentication

variable {may : Permit}

theorem made_secretOrField (doc : Document) (field referenceField : String) :
    Made may (secretOrField (ω := ω) doc field referenceField) := by
  refine .bind (.ofExcept _) fun spec => ?_
  split
  · exact .pure _
  · dsimp only
    split
    · exact .throw _
    · exact Cluster.made_readSecret _ _ _
  · exact .throw _

theorem made_credentialsOf (doc : Document) (kind : CredentialsKind) :
    Made may (credentialsOf (ω := ω) doc kind) := by
  unfold credentialsOf
  split
  · refine .bind (.ofExcept _) fun spec => ?_
    split
    · exact .throw _
    · exact .bind (made_secretOrField _ _ _) fun _ => .pure _
  · exact .bind (made_secretOrField _ _ _) fun _ => .pure _

theorem made_resolve (doc : Document) : Made may (resolve (ω := ω) doc) := by
  refine .bind (.ofExcept _) fun reference => ?_
  split
  · exact .pure _
  · refine .bind (.ofExcept _) fun resource => .bind (Cluster.made_read _ _ _) fun holder => ?_
    exact .bind (made_credentialsOf holder _) fun _ => .pure _

end Authentication

namespace Ownership

variable {may : Permit}

theorem made_ownerFor (doc : Document) (spec : Fields) (rule : OwnerRule) :
    Made may (ownerFor (ω := ω) doc spec rule) := by
  unfold ownerFor
  split
  · split
    · exact .throw _
    · refine .bind (Cluster.made_resourceOf _) fun resource => ?_
      refine .bind (Cluster.made_list _ _) fun objects => ?_
      refine .when (.throw _) fun _ => .bind (.ofExcept _) fun found => ?_
      split
      · exact .pure _
      · exact .throw _
  · exact .throw _

theorem made_extended (doc : Document) (spec : Fields) (references : List Value)
    (rules : List OwnerRule) : Made may (extended (ω := ω) doc spec references rules) := by
  induction rules generalizing references with
  | nil => exact .pure _
  | cons rule rest ih =>
      refine .bind (made_ownerFor doc spec rule) fun owner => .bind (.ofExcept _) fun present => ?_
      split
      · exact ih references
      · exact .bind (.part (.log _ _)) fun _ => ih _

end Ownership

/-! ## Descriptions and definitions -/

namespace Description

variable {may : Permit} (reaches : may.reaches = true)

include reaches in
theorem made_download (url : String) (timeout : Number) :
    Made may (download (ω := ω) url timeout) := by
  refine .bind (.attempt (.part (.wire reaches _ (fun sends => by contradiction)))) fun outcome => ?_
  split
  · split
    · exact .ofExcept _
    · exact .pure _
  · exact .ofExcept _
  · exact .throw _

theorem made_readFile (path : String) : Made may (readFile (ω := ω) path) := by
  refine .bind (made_file path) fun outcome => ?_
  split
  · exact .pure _
  · exact .ofExcept _

include reaches in
theorem made_fetch (location : String) (timeout : Number) :
    Made may (fetch (ω := ω) location timeout) := by
  refine .bind (.ofExcept _) fun place => ?_
  split
  · exact made_download reaches _ _
  · exact made_readFile _
  · split
    · exact .ofExcept _
    · refine .bind (made_file _) fun outcome => ?_
      split
      · exact .ofExcept _
      · exact .ofExcept _
      · exact made_readFile _

include reaches in
theorem made_load (source : String) (timeout : Number) :
    Made may (load (ω := ω) source timeout) := by
  unfold load
  split
  · exact .ofExcept _
  · exact .bind (.part (.log _ _)) fun _ => .bind (made_fetch reaches _ _) fun _ => .ofExcept _

include reaches in
theorem made_loadOnce (source : String) (timeout : Number) :
    Made may (loadOnce (ω := ω) source timeout) := by
  refine .bind (.bind (.part (.look Sight.steadyClock)) fun now => ?_) fun _ => .pure _
  refine made_get (fun s t same => ?_) fun session => ?_
  · rw [show loaded.read s = loaded.read t from congrArg Sight.descriptions same]
  · refine .bind (.part (.keep reaches (fun _ => _) id)) fun _ => ?_
    split
    · exact .pure _
    · refine .bind (.bind (made_load reaches _ _) fun _ => .pure _) fun found => ?_
      refine .bind (.part (.look Sight.steadyClock)) fun later => ?_
      exact .bind (.part (.keep reaches (·.set later source found) id)) fun _ => .pure _

end Description

namespace Definition

variable {may : Permit} (reaches : may.reaches = true)
include reaches

theorem made_fixedDescriptor (path : String) :
    Made may (fixedDescriptor (ω := ω) path) := by
  refine made_get (fun s t same => ?_) fun session => ?_
  · rw [show s.descriptor = t.descriptor from congrArg Sight.descriptor same]
  · split
    · exact .pure _
    · refine .bind (made_file _) fun outcome => ?_
      split
      · exact .throw _
      · refine .bind (.ofExcept _) fun _ => .bind (.ofExcept _) fun descriptor => ?_
        exact .bind (.part (.keep reaches id fun _ => some descriptor)) fun _ => .pure _

theorem made_resolve (source : DefinitionSource) (doc : Document) :
    Made may (resolve (ω := ω) source doc) := by
  cases source with
  | cluster =>
      refine .bind (.ofExcept _) fun kind => .bind (Cluster.made_list _ _) fun objects => ?_
      refine .bind (.ofExcept _) fun object => .bind (.ofExcept _) fun parts => ?_
      refine .bind (Authentication.made_resolve doc) fun credentials => ?_
      exact .bind (.ofExcept _) fun _ => .pure _
  | fixed url descriptorPath authenticates =>
      refine .bind (made_fixedDescriptor reaches _) fun descriptor => .when (.throw _) fun _ => ?_
      have completed (credentials : Option Credentials) : Made may (do
          pure ⟨url, descriptor, credentials, ← ofExcept doc.isVerbose⟩ : Work ω Definition) :=
        .bind (.ofExcept _) fun _ => .pure _
      dsimp only
      split
      · exact .bind (Authentication.made_resolve doc) completed
      · exact .bind (.pure none) completed

end Definition

/-! ## The backend -/

namespace Client

variable {may : Permit}

/-- What is made of an answer: it is logged, counted and judged. -/
theorem made_concluded (client : Client) (sent : HttpRequest) (codes : List Int) (operation : String)
    (response : HttpResponse) :
    Made may (do
      if client.isVerbose then log .info (verboseLine sent response)
      if codes.contains response.status then
        count (.calls .backend operation .success)
        ofExcept (decoded response)
      else
        count (.calls .backend operation .error)
        throw (refused operation response) : Work ω Value) := by
  refine .when (.part (.log _ _)) fun _ => ?_
  split
  · exact .bind (.part (.count rfl)) fun _ => .ofExcept _
  · exact .bind (.part (.count rfl)) fun _ => .throw _

variable (reaches : may.reaches = true) (sends : may.sends = true) (client : Client)
include reaches sends

theorem made_exchange (operation path : String) (sent : HttpRequest) :
    Made may (exchange (ω := ω) operation path sent) := by
  refine .bind (.attempt (made_inSpan _ _ _ ?_)) fun outcome => ?_
  · exact .bind (.part (.wire reaches _ fun _ => sends)) fun response =>
      .bind (.part (.trace _)) fun _ => .pure _
  · split
    · exact .bind (.part (.count rfl)) fun _ => .pure _
    · exact .bind (.part (.count rfl)) fun _ => .bind (.part (.count rfl)) fun _ => .throw _
    · exact .bind (.part (.count rfl)) fun _ => .throw _

theorem made_send (method path : String) (request : Request) :
    Made may (client.send (ω := ω) method path request) := by
  refine .bind (.ofExcept _) fun _ => .bind (.ofExcept _) fun codes => ?_
  refine .when (.throw _) fun _ => .bind (made_exchange reaches sends _ _ _) fun response => ?_
  exact client.made_concluded _ codes _ response

theorem made_performBound (call : BoundCall) (path : String) (request : Request) :
    Made may (client.performBound (ω := ω) call path request) := by
  cases call with
  | single kind => exact made_send reaches sends client _ path request
  | list method => exact made_send reaches sends client _ path request
  | findBy method =>
      refine .bind (made_send reaches sends client _ path request) fun answered => ?_
      split
      · exact .pure _
      · exact .throw _

end Client

/-! ## Charts -/

namespace ChartHandling

variable {may : Permit}

theorem made_releaseOf (reaches : may.reaches = true) (doc : Document) :
    Made may (releaseOf (ω := ω) doc) :=
  .bind (.part (.chart reaches _)) fun _ => .pure _

theorem made_hasRelease (reaches : may.reaches = true) (release : Release) :
    Made may (hasRelease (ω := ω) release) := by
  refine .bind (.attempt (.part (.chart reaches _))) fun outcome => ?_
  split
  · exact .pure _
  · exact .pure _
  · exact .throw _

theorem made_checkObject (ref : ObjectRef) : Made may (checkObject (ω := ω) ref) := by
  refine .bind (.ofExcept _) fun kind => .bind (Cluster.made_resourceOf kind) fun resource => ?_
  refine .bind (.attempt (Cluster.made_read _ _ _)) fun outcome => ?_
  cases outcome with
  | ok object =>
      dsimp only
      split
      · exact .pure _
      · exact .throw _
      · exact .throw _
  | error failure => exact .throw _

theorem made_firstUnavailable (refs : List ObjectRef) :
    Made may (firstUnavailable (ω := ω) refs) := by
  induction refs with
  | nil => exact .pure _
  | cons ref rest ih =>
      refine .bind (.attempt (made_checkObject ref)) fun outcome => ?_
      split
      · exact ih
      · exact .pure _
      · exact .throw _

end ChartHandling

/-! ## Controllers -/

namespace Controller

variable {may : Permit} (controller : Controller ω) (ref : ObjectRef)

theorem made_fetch : Made may (controller.fetch ref) := by
  refine .bind (.attempt (Cluster.made_read _ _ _)) fun outcome => ?_
  cases outcome with
  | ok doc => exact .pure _
  | error failure =>
      dsimp only
      split
      · exact .pure _
      · exact .throw _

theorem made_writeFailure (writes : may.writes = true) (doc : Document) (failure : Failure) :
    Made may (writeFailure (ω := ω) doc failure) := by
  refine .bind (.part (.look Sight.wallClock)) fun now => ?_
  split
  · exact .bind (Cluster.made_updateStatus writes _) fun _ => .pure _
  · exact .throw _

theorem made_markFailed (writes : may.writes = true) (failure : Failure) :
    Made may (controller.markFailed ref failure) := by
  refine .bind (.attempt ?_) fun outcome => ?_
  · refine .bind (controller.made_fetch ref) fun found => ?_
    cases found with
    | none => exact .pure _
    | some doc => exact .bind (made_writeFailure writes doc failure) fun _ => .pure _
  · split
    · exact .pure _
    · exact .part (.emit _ _ _ _ _)
    · exact .part (.log _ _)
    · exact .part (.log _ _)

end Controller

end Reconciler
