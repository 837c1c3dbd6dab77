import Reconciler.Proofs.Session.Record

/-!
# Notices and the rest of the work

A world whose answers to notices are given from outside, and which keeps what is asked of others.  Two
sessions in such worlds are alike when they differ only in those answers and in what was reported.  As long
as a notice is posted or refused by the cluster, no work can tell sessions apart that are alike.
-/

namespace Reconciler

/-- What is asked of others, for them to act upon. -/
inductive Asked where
  /-- An object, or its observed state, is replaced. -/
  | write (write : Write)
  /-- A request over the wire. -/
  | wire (call : WireCall)
  /-- A release is installed. -/
  | install (release : Release) (values : Fields)
  /-- A release is removed. -/
  | uninstall (release : Release)

/-- What a call asks the chart engine to do. -/
def ChartCall.asked {α : Type} : ChartCall α → List Asked
  | .install release values => [.install release values]
  | .uninstall release => [.uninstall release]
  | _ => []

/-- A world outside, with other answers to notices. -/
structure Posted (ω : Type) where
  /-- The world outside. -/
  world : ω
  /-- The answers to notices. -/
  verdict : ω → Notice → Except Failure Unit
  /-- What was asked of others so far. -/
  asked : List Asked

namespace Posted

variable {ω : Type} [World ω]

/-- The world after a call to the cluster. -/
def afterCluster {α : Type} (call : ClusterCall α) (posted : Posted ω) : Posted ω :=
  { posted with
    world := (World.cluster call posted.world).2
    asked := posted.asked ++ (call.writes (World.cluster call posted.world).1).map .write }

/-- The answer of the cluster. -/
def clusterAnswer : {α : Type} → ClusterCall α → Posted ω → Except Failure α
  | _, .post notice, posted => posted.verdict posted.world notice
  | _, call, posted => (World.cluster call posted.world).1

theorem clusterAnswer_of_quiet {α : Type} {call : ClusterCall α} (quiet : call.posts = false)
    (posted : Posted ω) : clusterAnswer call posted = (World.cluster call posted.world).1 := by
  cases call <;> first | rfl | contradiction

end Posted

instance {ω : Type} [World ω] : World (Posted ω) where
  cluster call posted := (posted.clusterAnswer call, posted.afterCluster call)
  wire call posted :=
    ((World.wire call posted.world).1,
      { posted with
        world := (World.wire call posted.world).2
        asked := posted.asked ++ [.wire call] })
  chart call posted :=
    ((World.chart call posted.world).1,
      { posted with
        world := (World.chart call posted.world).2
        asked := posted.asked ++ call.asked })
  file posted := World.file posted.world
  wallClock posted := World.wallClock posted.world
  steadyClock posted := World.steadyClock posted.world
  freshId posted :=
    ((World.freshId posted.world).1, { posted with world := (World.freshId posted.world).2 })

/-- Each notice is posted, or refused by the cluster. -/
def Polite {ω : Type} (verdict : ω → Notice → Except Failure Unit) : Prop :=
  ∀ world notice, verdict world notice = .ok () ∨
    ∃ status text, verdict world notice = .error (.cluster status text)

/-- Two sessions differ at most in what was reported and in the answers to notices, each of which is posted
or refused by the cluster. -/
structure Session.Alike {ω : Type} (s t : Session (Posted ω)) : Prop where
  /-- The world outside is the same. -/
  world : s.world.world = t.world.world
  /-- The same was asked of others. -/
  asked : s.world.asked = t.world.asked
  /-- The means are the same. -/
  means : s.means = t.means
  /-- The loaded API descriptions are the same. -/
  descriptions : s.descriptions = t.descriptions
  /-- The descriptor that was read from its file is the same. -/
  descriptor : s.descriptor = t.descriptor
  /-- Notices are posted or refused in the first session. -/
  polite : Polite s.world.verdict
  /-- Notices are posted or refused in the second session. -/
  polite' : Polite t.world.verdict

theorem Session.Alike.sight {ω : Type} [World ω] {s t : Session (Posted ω)} (alike : s.Alike t) :
    s.sight = t.sight := by
  simp [Session.sight, World.file, World.wallClock, World.steadyClock, alike.means,
    alike.descriptions, alike.descriptor, alike.world]

section Posting

variable {ω α : Type}

/-- A report does not tell sessions apart. -/
theorem respects_report (change : Telemetry → Telemetry) :
    Respects Session.Alike (report change : Work (Posted ω) Unit) :=
  fun _ _ alike => ⟨rfl, { alike with }⟩

/-- A question that is answered in the same way in the same world does not tell sessions apart. -/
theorem respects_ask {call : Posted ω → Except Failure α × Posted ω}
    (answers : ∀ p q : Posted ω, p.world = q.world → (call p).1 = (call q).1)
    (moves : ∀ p q : Posted ω, p.world = q.world → (call p).2.world = (call q).2.world)
    (asks : ∀ p q : Posted ω, p.world = q.world → p.asked = q.asked →
      (call p).2.asked = (call q).2.asked)
    (keeps : ∀ p : Posted ω, (call p).2.verdict = p.verdict) :
    Respects Session.Alike (Work.ask call) := by
  intro s t alike
  rw [answer_ask, answer_ask, final_ask, final_ask]
  exact ⟨answers _ _ alike.world,
    { alike with
      world := moves _ _ alike.world
      asked := asks _ _ alike.world alike.asked
      polite := (keeps s.world).symm ▸ alike.polite
      polite' := (keeps t.world).symm ▸ alike.polite' }⟩

variable [World ω]

theorem respects_cluster {call : ClusterCall α} (quiet : call.posts = false) :
    Respects Session.Alike (Work.cluster (ω := Posted ω) call) := by
  refine respects_ask (fun p q same => ?_) (fun p q same => ?_) (fun p q same asked => ?_)
    fun _ => rfl
  · change p.clusterAnswer call = q.clusterAnswer call
    rw [Posted.clusterAnswer_of_quiet quiet, Posted.clusterAnswer_of_quiet quiet, same]
  · exact congrArg (fun world : ω => (World.cluster call world).2) same
  · change p.asked ++ _ = q.asked ++ _
    rw [same, asked]

theorem respects_wire (call : WireCall) :
    Respects Session.Alike (Work.wire (ω := Posted ω) call) := by
  refine respects_ask (fun p q same => ?_) (fun p q same => ?_) (fun p q _ asked => ?_) fun _ => rfl
  · exact congrArg (fun world : ω => (World.wire call world).1) same
  · exact congrArg (fun world : ω => (World.wire call world).2) same
  · exact congrArg (· ++ [Asked.wire call]) asked

theorem respects_chart (call : ChartCall α) :
    Respects Session.Alike (Work.chart (ω := Posted ω) call) := by
  refine respects_ask (fun p q same => ?_) (fun p q same => ?_) (fun p q _ asked => ?_) fun _ => rfl
  · exact congrArg (fun world : ω => (World.chart call world).1) same
  · exact congrArg (fun world : ω => (World.chart call world).2) same
  · exact congrArg (· ++ call.asked) asked

theorem respects_freshId : Respects Session.Alike (Work.freshId (ω := Posted ω)) := by
  refine respects_ask (fun p q same => ?_) (fun p q same => ?_) (fun p q _ asked => asked)
    fun _ => rfl
  · exact congrArg (fun world : ω => Except.ok (World.freshId world).1) same
  · exact congrArg (fun world : ω => (World.freshId world).2) same

/-- The session after a notice was handed to the cluster. -/
def Session.noticed (session : Session (Posted ω)) (notice : Notice) : Session (Posted ω) :=
  { session with world := session.world.afterCluster (.post notice) }

/-- A notice that is refused is logged, and that is all. -/
theorem emitted (recorder : Recorder) (doc : Document) (reason message type : String)
    {session : Session (Posted ω)} (polite : Polite session.world.verdict) :
    let emit := recorder.emit (ω := Posted ω) doc reason message type
    let after := if recorder.isEnabled then
        session.noticed (recorder.notice doc reason message type) else session
    answer emit session = .ok () ∧
      ∃ telemetry, final emit session = { after with telemetry } := by
  dsimp only
  unfold Recorder.emit
  split
  · rw [answer_bind, final_bind, answer_attempt, final_attempt]
    have judged : answer (Work.cluster (ω := Posted ω)
        (.post (recorder.notice doc reason message type))) session =
          session.world.verdict session.world.world (recorder.notice doc reason message type) :=
      answer_ask ..
    have left : final (Work.cluster (ω := Posted ω)
        (.post (recorder.notice doc reason message type))) session =
          session.noticed (recorder.notice doc reason message type) := final_ask ..
    rw [judged, left]
    rcases polite session.world.world (recorder.notice doc reason message type) with
      posted | ⟨status, text, refused⟩
    · rw [posted]
      exact ⟨rfl, _, rfl⟩
    · rw [refused]
      exact ⟨rfl, _, rfl⟩
  · exact ⟨rfl, _, rfl⟩

/-- Notices do not tell sessions apart. -/
theorem respects_emit (recorder : Recorder) (doc : Document) (reason message type : String) :
    Respects Session.Alike (recorder.emit (ω := Posted ω) doc reason message type) := by
  intro s t alike
  obtain ⟨answered, telemetry, left⟩ := emitted recorder doc reason message type alike.polite
  obtain ⟨answered', telemetry', left'⟩ := emitted recorder doc reason message type alike.polite'
  refine ⟨answered.trans answered'.symm, ?_⟩
  rw [left, left']
  split
  · let post : ClusterCall Unit := .post (recorder.notice doc reason message type)
    refine { alike with world := ?_, asked := ?_ }
    · exact congrArg (fun world : ω => (World.cluster post world).2) alike.world
    · exact congrArg (· ++ []) alike.asked
  · exact { alike with }

/-- No work can tell sessions apart that are alike. -/
theorem respects_made {work : Work (Posted ω) α} (made : Work.Made .full work) :
    Respects Session.Alike work := by
  refine made.respects fun _ _ part => ?_
  cases part with
  | look see => exact fun s t alike => ⟨congrArg (fun sight => Except.ok (see sight)) alike.sight, alike⟩
  | cluster call quiet allowed => exact respects_cluster quiet
  | emit recorder doc reason message type => exact respects_emit recorder doc reason message type
  | wire allowed call => exact respects_wire call
  | chart allowed call => exact respects_chart call
  | keep allowed descriptions descriptor =>
      intro s t alike
      exact ⟨rfl,
        { alike with
          descriptions := congrArg descriptions alike.descriptions
          descriptor := congrArg descriptor alike.descriptor }⟩
  | log level text => exact respects_report _
  | logRecord level record additional => exact respects_report _
  | count step => exact respects_report _
  | trace change => exact respects_report _

end Posting

end Reconciler
