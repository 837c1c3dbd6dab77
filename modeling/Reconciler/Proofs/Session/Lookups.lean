import Reconciler.Proofs.Session.Frame

/-!
# Lookups that are answered alike

Work cannot tell two sessions apart when the world outside answers all its questions alike.  Where that holds
of lookups by name, it holds of all work that only looks things up: the resource of a kind, an object, the
entry of a secret, and with them the credentials of a document.
-/

namespace Reconciler

/-- Sessions in related worlds, with the same means. -/
def Session.Related {ω : Type} (related : ω → ω → Prop) (s t : Session ω) : Prop :=
  s.means = t.means ∧ related s.world t.world

/-- A call to the cluster looks something up by its name. -/
def ClusterCall.looksUp {α : Type} : ClusterCall α → Bool
  | .get .. | .getCore .. | .discoverKind .. | .discoverName .. | .readSecret .. => true
  | _ => false

/-- The cluster answers lookups alike in worlds that are related, which they are afterwards. -/
def LooksUpAlike {ω : Type} [World ω] (related : ω → ω → Prop) : Prop :=
  ∀ {w v}, related w v → ∀ {α : Type} (call : ClusterCall α), call.looksUp = true →
    (World.cluster call w).1 = (World.cluster call v).1 ∧
      related (World.cluster call w).2 (World.cluster call v).2

section Alike

variable {ω α : Type} {related : ω → ω → Prop}

theorem respects_count (metric : Metric) :
    Respects (Session.Related related) (count (σ := Session ω) metric) :=
  fun _ _ same => ⟨rfl, same⟩

/-- Work that goes on from the means of the session goes on alike in related sessions. -/
theorem respects_get {next : Session ω → Work ω α}
    (blind : ∀ s t : Session ω, s.means = t.means → next s = next t)
    (rest : ∀ session, Respects (Session.Related related) (next session)) :
    Respects (Session.Related related) (get >>= next) := by
  intro s t same
  rw [answer_bind_ok (answer_get s), answer_bind_ok (answer_get t), final_bind_ok (answer_get s),
    final_bind_ok (answer_get t), final_get, final_get, blind s t same.1]
  exact rest t s t same

variable [World ω]

theorem respects_question {call : ClusterCall α}
    (alike : ∀ {w v}, related w v → (World.cluster call w).1 = (World.cluster call v).1 ∧
      related (World.cluster call w).2 (World.cluster call v).2) :
    Respects (Session.Related related) (Work.cluster call) := by
  intro s t same
  obtain ⟨answers, left⟩ := alike same.2
  rw [Work.cluster, answer_ask, answer_ask, final_ask, final_ask]
  exact ⟨answers, same.1, left⟩

theorem respects_lookup (alike : LooksUpAlike related) {call : ClusterCall α}
    (looks : call.looksUp = true) : Respects (Session.Related related) (Work.cluster call) :=
  respects_question fun same => alike same call looks

namespace Cluster

omit [World ω] in
theorem respects_metered (operation : String) {call : Work ω α}
    (respects : Respects (Session.Related related) call) :
    Respects (Session.Related related) (metered operation call) :=
  respects_bind (respects_attempt respects) fun outcome => respects_bind (respects_count _) fun _ =>
    respects_bind (respects_count _) fun _ => respects_ofExcept outcome

omit [World ω] in
theorem respects_requireDiscovery (need : AbsentClient) :
    Respects (Session.Related related) (requireDiscovery (ω := ω) need) := by
  refine respects_get (fun s t same => by rw [same]) fun session => ?_
  split
  · exact respects_ofExcept (.ok ())
  · exact respects_ofExcept (.error _)

variable (alike : LooksUpAlike related)
include alike

theorem respects_resourceOf (kind : GroupVersionKind) :
    Respects (Session.Related related) (resourceOf (ω := ω) kind) :=
  respects_bind (respects_requireDiscovery _) fun _ =>
    respects_bind (respects_metered _ (respects_lookup alike rfl)) fun _ => respects_ofExcept (.ok _)

theorem respects_read (resource : GroupVersionResource) (namespace_ name : String) :
    Respects (Session.Related related) (read (ω := ω) resource namespace_ name) := by
  unfold read
  split
  · refine respects_bind (respects_requireDiscovery _) fun _ => ?_
    refine respects_bind (respects_lookup alike rfl) fun found => ?_
    exact respects_bind (respects_metered _ (respects_lookup alike rfl)) fun _ =>
      respects_ofExcept (.ok _)
  · exact respects_bind (respects_metered _ (respects_lookup alike rfl)) fun _ =>
      respects_ofExcept (.ok _)

theorem respects_readSecret (namespace_ name key : String) :
    Respects (Session.Related related) (readSecret (ω := ω) namespace_ name key) := by
  refine respects_get (fun s t same => by rw [same]) fun session => ?_
  split
  · refine respects_metered _ (respects_bind (respects_attempt (respects_lookup alike rfl))
      fun outcome => ?_)
    cases outcome with
    | error failure => exact respects_ofExcept (.error _)
    | ok data => exact respects_ofExcept _
  · exact respects_ofExcept (.error _)

end Cluster

namespace Authentication

variable (alike : LooksUpAlike related)
include alike

theorem respects_secretOrField (doc : Document) (field referenceField : String) :
    Respects (Session.Related related) (secretOrField (ω := ω) doc field referenceField) := by
  refine respects_bind (respects_ofExcept _) fun spec => ?_
  split
  · exact respects_ofExcept (.ok _)
  · dsimp only
    split
    · exact respects_ofExcept (.error _)
    · exact Cluster.respects_readSecret alike _ _ _
  · exact respects_ofExcept (.error _)

theorem respects_credentialsOf (doc : Document) (kind : CredentialsKind) :
    Respects (Session.Related related) (credentialsOf (ω := ω) doc kind) := by
  unfold credentialsOf
  split
  · refine respects_bind (respects_ofExcept _) fun spec => ?_
    split
    · exact respects_ofExcept (.error _)
    · exact respects_bind (respects_secretOrField alike _ _ _) fun _ => respects_ofExcept (.ok _)
  · exact respects_bind (respects_secretOrField alike _ _ _) fun _ => respects_ofExcept (.ok _)

/-- The credentials of a document depend on what is looked up, and on nothing else of the world. -/
theorem respects_resolve (doc : Document) :
    Respects (Session.Related related) (resolve (ω := ω) doc) := by
  refine respects_bind (respects_ofExcept _) fun reference => ?_
  split
  · exact respects_ofExcept (.ok _)
  · refine respects_bind (respects_ofExcept _) fun resource => ?_
    refine respects_bind (Cluster.respects_read alike _ _ _) fun holder => ?_
    exact respects_bind (respects_credentialsOf alike holder _) fun _ => respects_ofExcept (.ok _)

end Authentication

end Alike

end Reconciler
