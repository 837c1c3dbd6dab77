import Reconciler.Proofs.Document.Edits
import Reconciler.Proofs.Session.Frame

/-!
# What is written to the cluster, recorded

A world outside that records the bodies which are written to the cluster, each with the answer to it,
and answers as before.  Whatever else is asked of the world leaves the record as it is.
-/

namespace Reconciler

/-- An object, or its observed state, that was replaced in the cluster. -/
structure Write where
  /-- The whole object was replaced, and not its observed state alone. -/
  isWhole : Bool
  /-- The coordinates of the resource. -/
  resource : GroupVersionResource
  /-- The namespace. -/
  namespace_ : String
  /-- The name. -/
  name : String
  /-- The tree that was written. -/
  body : Value
  /-- What the cluster answered. -/
  answer : Except Failure Value

/-- The resource version that the cluster answered to a write that succeeded. -/
def Write.version? (write : Write) : Option String :=
  match write.answer with
  | .ok stored => Document.version? stored
  | .error _ => none

/-- What a call writes to the cluster. -/
def ClusterCall.writes {α : Type} : ClusterCall α → Except Failure α → List Write
  | .replace resource namespace_ name body, answer =>
    [⟨true, resource, namespace_, name, body, answer⟩]
  | .replaceStatus resource namespace_ name body, answer =>
    [⟨false, resource, namespace_, name, body, answer⟩]
  | _, _ => []

theorem ClusterCall.writes_of_other {α : Type} {call : ClusterCall α}
    (other : call.replaces = false) (answer : Except Failure α) : call.writes answer = [] := by
  cases call <;> first | rfl | simp [ClusterCall.replaces] at other

/-- A world outside, and what was written to the cluster so far. -/
structure Recorded (ω : Type) where
  /-- The world outside. -/
  world : ω
  /-- The writes in their order. -/
  writes : List Write

instance {ω : Type} [World ω] : World (Recorded ω) where
  cluster call recorded :=
    ((World.cluster call recorded.world).1,
      ⟨(World.cluster call recorded.world).2,
        recorded.writes ++ call.writes (World.cluster call recorded.world).1⟩)
  wire call recorded :=
    ((World.wire call recorded.world).1,
      { recorded with world := (World.wire call recorded.world).2 })
  chart call recorded :=
    ((World.chart call recorded.world).1,
      { recorded with world := (World.chart call recorded.world).2 })
  file recorded := World.file recorded.world
  wallClock recorded := World.wallClock recorded.world
  steadyClock recorded := World.steadyClock recorded.world
  freshId recorded :=
    ((World.freshId recorded.world).1,
      { recorded with world := (World.freshId recorded.world).2 })

/-- What was written to the cluster so far. -/
def Session.writes {ω : Type} (session : Session (Recorded ω)) : List Write :=
  session.world.writes

namespace Recorded

variable {ω α : Type} [World ω]

theorem writes_cluster (call : ClusterCall α) (session : Session (Recorded ω)) :
    (final (Work.cluster call) session).writes =
      session.writes ++ call.writes (answer (Work.cluster call) session) := by
  rw [Work.cluster, final_ask, answer_ask]
  rfl

/-- Only what replaces objects of the cluster is recorded. -/
theorem detached_writes : DetachedButWrites (Session.writes (ω := ω)) where
  called other session := by
    change session.writes ++ _ = session.writes
    rw [ClusterCall.writes_of_other other, List.append_nil]
  identified _ := rfl
  reported _ _ := rfl

/-! ## Writing -/

theorem writes_metered (operation : String) (call : Work (Recorded ω) α)
    (session : Session (Recorded ω)) :
    (final (Cluster.metered operation call) session).writes = (final call session).writes :=
  Cluster.view_metered operation call session detached_writes.keeps_count

/-- Work writes a document to the cluster and answers what was stored, or fails before it writes since
the resource of the document is not found. -/
def Stores (isWhole : Bool) (doc : Document) (work : Work (Recorded ω) Document) : Prop :=
  ∀ session, (∃ failure, answer work session = .error failure ∧
        answer (Cluster.resourceOfDocument doc) session = .error failure) ∧
      (final work session).writes = session.writes ∨
    ∃ write : Write, write.isWhole = isWhole ∧ write.body = doc.object ∧
      answer work session = write.answer.map Cluster.documentOf ∧
      (final work session).writes = session.writes ++ [write]

theorem stores_of_call {isWhole : Bool} {doc : Document} (operation : String)
    {call : GroupVersionResource → ClusterCall Value}
    (written : ∀ resource answer, ∃ write : Write, (call resource).writes answer = [write] ∧
      write.isWhole = isWhole ∧ write.body = doc.object ∧ write.answer = answer) :
    Stores isWhole doc (do
      let resource ← Cluster.resourceOfDocument (ω := Recorded ω) doc
      pure (Cluster.documentOf
        (← Cluster.metered operation (Work.cluster (call resource))))) := by
  intro session
  have found := detached_writes.keeps_made (Cluster.made_resourceOfDocument doc) session
  cases answered : answer (Cluster.resourceOfDocument doc) session with
  | error failure =>
      refine .inl ⟨⟨failure, ?_, rfl⟩, ?_⟩
      · rw [answer_bind, answered]
      · rw [final_bind, answered]
        exact found
  | ok resource =>
      let placed := final (Cluster.resourceOfDocument doc) session
      obtain ⟨write, recorded, whole, body, stored⟩ :=
        written resource (answer (Work.cluster (call resource)) placed)
      have wrote : (final (Cluster.metered operation (Work.cluster (call resource))) placed).writes =
          session.writes ++ [write] := by
        rw [writes_metered, writes_cluster, recorded, found]
      refine .inr ⟨write, whole, body, ?_, ?_⟩
      · rw [answer_bind_ok answered, answer_bind_pure, Cluster.answer_metered, stored]
      · rw [final_bind_ok answered, final_bind_pure, wrote]

/-- Work that stores a document writes at most once, and what it writes is the document. -/
theorem Stores.writes {isWhole : Bool} {doc : Document} {work : Work (Recorded ω) Document}
    (stores : Stores isWhole doc work) (session : Session (Recorded ω)) :
    ∃ made, (final work session).writes = session.writes ++ made ∧
      ∀ write ∈ made, write.body = doc.object := by
  rcases stores session with ⟨-, kept⟩ | ⟨write, -, body, -, wrote⟩
  · exact ⟨[], by simp [kept], by simp⟩
  · exact ⟨[write], wrote, by simp [body]⟩

theorem stores_update (doc : Document) : Stores true doc (Cluster.update (ω := Recorded ω) doc) :=
  stores_of_call _ fun _ _ => ⟨_, rfl, rfl, rfl, rfl⟩

theorem stores_updateStatus (doc : Document) :
    Stores false doc (Cluster.updateStatus (ω := Recorded ω) doc) :=
  stores_of_call _ fun _ _ => ⟨_, rfl, rfl, rfl, rfl⟩

/-- Work that does not replace objects of the cluster leaves the record as it is. -/
theorem keeps_made {work : Work (Recorded ω) α} (made : Work.Made ⟨false, true, true, false⟩ work) :
    Keeps Session.writes work := by
  refine made.keeps fun _ _ part => detached_writes.keeps_part part (by simp) fun _ => ?_
  refine ⟨fun call _ session => ?_, fun call session => ?_, fun _ _ _ => rfl⟩
  · rw [Work.wire, final_ask]
    rfl
  · rw [Work.chart, final_ask]
    rfl

end Recorded

end Reconciler
