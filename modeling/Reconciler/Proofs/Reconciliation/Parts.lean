import Reconciler.Controller.Processing
import Reconciler.Proofs.Session.Parts
import Reconciler.Reconciliation.Rest

/-!
# The parts of work on the document at hand

Work on the document at hand is put together from work in the session, from looks at the document and from
edits of it.  Only the report of a difference between the external resource and the desired state counts
more than a step, and is left aside here.
-/

namespace Reconciler

open Work (Made)

variable {ω : Type} [World ω]

/-- A part of work on the document at hand. -/
inductive Reconcile.Part (may : Permit) : (α : Type) → Reconcile ω α → Prop where
  /-- Work in the session. -/
  | inSession {α : Type} {work : Work ω α} (made : Made may work) :
    Part may α (Reconciler.inSession work)
  /-- A look at the document at hand. -/
  | current : Part may Document Desk.current
  /-- An edit of the document at hand. -/
  | edit {α : Type} (allowed : may.edits = true) (change : Edit α) : Part may α (Desk.edit change)

/-- Work on the document at hand that is put together from parts. -/
abbrev Reconcile.Done {α : Type} (may : Permit) (act : Reconcile ω α) : Prop :=
  Composed (Reconcile.Part may) act

open Reconcile (Done)

variable {α : Type} {may : Permit}

theorem done_inSession {work : Work ω α} (made : Made may work) :
    Done may (inSession work : Reconcile ω α) :=
  .part (.inSession made)

theorem done_count {metric : Metric} (step : metric.isOfSteps = true) :
    Done may (count metric : Reconcile ω Unit) :=
  .part (.inSession (.part (.count step)))

theorem done_current {next : Document → Reconcile ω α} (rest : ∀ doc, Done may (next doc)) :
    Done may (Desk.current >>= next) :=
  .bind (.part .current) rest

namespace Handling

variable (handling : Handling)

theorem done_logStep (level : Level) (message event reason : String) (additional : Fields) :
    Done may (handling.logStep (ω := ω) level message event reason additional) :=
  done_current fun _ => .part (.inSession (.part (.logRecord _ _ _)))

theorem done_persist (writes : may.writes = true) (edits : may.edits = true) :
    Done may (persist (ω := ω)) :=
  done_current fun doc => .bind (done_inSession (Cluster.made_update writes doc)) fun _ =>
    .part (.edit edits _)

theorem done_persistStatus (writes : may.writes = true) (edits : may.edits = true)
    (before : Option Value) : Done may (persistStatus (ω := ω) before) := by
  have judged (isKept : Bool) : Done may (if isKept then pure false else do
      let updated ← inSession (Cluster.updateStatus (← Desk.current))
      Desk.edit (Document.adoptVersion updated)
      pure true : Reconcile ω Bool) := by
    split
    · exact .pure _
    · refine done_current fun doc => ?_
      refine .bind (done_inSession (Cluster.made_updateStatus writes doc)) fun _ => ?_
      exact .bind (.part (.edit edits _)) fun _ => .pure _
  cases before with
  | none => exact .bind (.pure false) judged
  | some status =>
      exact done_current fun doc => .bind (.ofExcept _) fun _ => .bind (.pure _) judged

theorem done_setReady (edits : may.edits = true) (readiness : Readiness) :
    Done may (setReady (ω := ω) readiness) :=
  .bind (done_inSession (.part (.look Sight.wallClock))) fun _ => .part (.edit edits _)

theorem done_setAvailable (edits : may.edits = true) : Done may (setAvailable (ω := ω)) :=
  .bind (done_setReady edits _) fun _ => .part (.edit edits _)

theorem done_releaseDocument (writes : may.writes = true) (edits : may.edits = true) :
    Done may (releaseDocument (ω := ω)) := by
  refine .bind (.part (.edit edits _)) fun changed => ?_
  split
  · exact done_persist writes edits
  · exact .pure _

end Handling

theorem Ownership.done_adopt (writes : may.writes = true) (edits : may.edits = true)
    (rules : List OwnerRule) : Done may (adopt (ω := ω) rules) := by
  refine done_current fun doc => .bind (.ofExcept _) fun references => .bind (.ofExcept _) fun spec => ?_
  refine .bind (done_inSession (made_extended doc spec references rules)) fun all => ?_
  split
  · exact .pure _
  · refine .bind (.part (.edit edits _)) fun _ => done_current fun doc => ?_
    refine .bind (done_inSession (Cluster.made_update writes doc)) fun _ => ?_
    exact .bind (.part (.edit edits _)) fun _ => .pure _

namespace RestHandling

variable (rest : RestHandling)

theorem done_connect (writes : may.writes = true) (reaches : may.reaches = true)
    (edits : may.edits = true) : Done may (rest.connect (ω := ω)) := by
  refine done_current fun doc => ?_
  refine .bind (done_inSession (Definition.made_resolve reaches _ doc)) fun definition => ?_
  have opened : Done may (do
      let description ← inSession (Description.loadOnce definition.url rest.timeout)
      let client ← ofExcept (Client.ofDescription description none definition.credentials
        rest.timeout (definition.isVerbose || rest.logsRequests))
      pure (definition, client) : Reconcile ω (Definition × Client)) :=
    .bind (done_inSession (Description.made_loadOnce reaches _ _)) fun _ =>
      .bind (.ofExcept _) fun _ => .pure _
  dsimp only
  split
  · exact .bind (Ownership.done_adopt writes edits _) fun _ => opened
  · exact opened

theorem done_makeCall (reaches : may.reaches = true) (sends : may.sends = true) (client : Client)
    (call : Call) : Done may (makeCall (ω := ω) client call) :=
  done_current fun _ => .bind (.ofExcept _) fun _ => .bind (.ofExcept _) fun _ =>
    .bind (.ofExcept _) fun _ =>
      done_inSession (Client.made_performBound reaches sends client _ _ _)

theorem done_lookup (client : Client) (descriptor : Descriptor) :
    Done may (rest.lookup (ω := ω) client descriptor) := by
  refine done_current fun doc => .bind (.ofExcept _) fun isKnown => ?_
  dsimp only
  split
  · exact .pure _
  · refine .when (.throw _) fun _ => ?_
    exact .bind (Handling.done_logStep _ _ _ _ _ _) fun _ => .pure _
  · exact .throw _

theorem done_lookAt (reaches : may.reaches = true) (sends : may.sends = true) (client : Client)
    (call : Call) : Done may (rest.lookAt (ω := ω) client call) := by
  refine done_current fun doc => .bind (.ofExcept _) fun status => .bind (.ofExcept _) fun spec => ?_
  refine .bind (.ofExcept _) fun request => ?_
  refine .bind (.attempt (done_inSession (Client.made_performBound reaches sends client _ _ _))) ?_
  intro outcome
  cases outcome with
  | ok body => exact .pure _
  | error failure =>
      dsimp only
      split
      · exact .bind (Handling.done_logStep _ _ _ _ _ _) fun _ => .pure _
      · exact .throw _

theorem done_createResource (writes : may.writes = true) (reaches : may.reaches = true)
    (sends : may.sends = true) (edits : may.edits = true) : Done may (rest.createResource (ω := ω)) := by
  refine .bind (rest.done_connect writes reaches edits) fun (definition, client) => ?_
  refine done_current fun doc => .bind (.ofExcept _) fun before => .bind (.ofExcept _) fun call => ?_
  refine done_current fun doc => .bind (.ofExcept _) fun spec => .bind (.ofExcept _) fun request => ?_
  refine .bind (done_inSession (Client.made_performBound reaches sends client _ _ _)) fun body => ?_
  refine .bind (.part (.edit edits _)) fun _ => .bind (Handling.done_setReady edits _) fun _ => ?_
  refine .bind (Handling.done_persistStatus writes edits _) fun _ => done_current fun doc => ?_
  exact .bind (done_inSession (.part (.emit _ doc _ _ _))) fun _ =>
    Handling.done_logStep _ _ _ _ _ _

theorem done_updateResource (writes : may.writes = true) (reaches : may.reaches = true)
    (sends : may.sends = true) (edits : may.edits = true) : Done may (rest.updateResource (ω := ω)) := by
  refine .bind (rest.done_connect writes reaches edits) fun (definition, client) => ?_
  refine done_current fun doc => .bind (.ofExcept _) fun before => .bind (.ofExcept _) fun call => ?_
  refine .bind (done_makeCall reaches sends client call) fun body => ?_
  refine .bind (.part (.edit edits _)) fun _ => ?_
  refine .bind (Handling.done_persistStatus writes edits _) fun _ => done_current fun doc => ?_
  exact .bind (done_inSession (.part (.emit _ doc _ _ _))) fun _ =>
    Handling.done_logStep _ _ _ _ _ _

theorem done_removeResource (writes : may.writes = true) (reaches : may.reaches = true)
    (sends : may.sends = true) (edits : may.edits = true) : Done may (rest.removeResource (ω := ω)) := by
  refine .bind (rest.done_connect writes reaches edits) fun (definition, client) => ?_
  refine .bind (.ofExcept _) fun call => .bind (done_makeCall reaches sends client call) fun _ => ?_
  refine done_current fun doc => .bind (done_inSession (.part (.emit _ doc _ _ _))) fun _ => ?_
  exact Handling.done_logStep _ _ _ _ _ _

end RestHandling

namespace ChartHandling

variable (chart : ChartHandling)

theorem done_observeRelease (writes : may.writes = true) (reaches : may.reaches = true)
    (edits : may.edits = true) : Done may (chart.observeRelease (ω := ω)) := by
  refine done_current fun doc => ?_
  refine .bind (done_inSession (made_releaseOf reaches doc)) fun release => ?_
  refine .bind (done_inSession (made_hasRelease reaches release)) fun isThere => ?_
  split
  · exact .bind (Handling.done_logStep _ _ _ _ _ _) fun _ => .pure _
  · refine done_current fun doc => .bind (.ofExcept _) fun before => ?_
    refine done_current fun doc => .bind (.ofExcept _) fun values => ?_
    refine .bind (done_inSession (.part (.chart reaches _))) fun manifest => ?_
    refine .bind (.ofExcept _) fun refs => ?_
    refine .bind (done_inSession (made_firstUnavailable _)) fun found => ?_
    cases found with
    | some entry =>
        refine .bind (.part (.edit edits _)) fun _ => .bind (Handling.done_setReady edits _) fun _ => ?_
        refine .bind (Handling.done_persistStatus writes edits _) fun _ => ?_
        exact .bind (Handling.done_logStep _ _ _ _ _ _) fun _ => .pure _
    | none =>
        refine .bind (Handling.done_setAvailable edits) fun _ => ?_
        exact .bind (Handling.done_persistStatus writes edits _) fun _ => .pure _

theorem done_installRelease (reaches : may.reaches = true) :
    Done may (installRelease (ω := ω)) :=
  done_current fun doc => .bind (done_inSession (made_releaseOf reaches doc)) fun _ =>
    .bind (.ofExcept _) fun _ => done_inSession (.part (.chart reaches _))

theorem done_removeRelease (reaches : may.reaches = true) :
    Done may (chart.removeRelease (ω := ω)) :=
  done_current fun doc => .bind (done_inSession (made_releaseOf reaches doc)) fun _ =>
    .bind (done_inSession (.part (.chart reaches _))) fun _ =>
      done_inSession (.part (.emit _ doc _ _ _))

end ChartHandling

theorem Controller.done_prepare (writes : may.writes = true) (edits : may.edits = true)
    (type : EventType) : Done may (prepare (ω := ω) type) := by
  have cleaned (left : EventType) : Done may (do
      Desk.edit (modify Document.withoutTransientMetadata)
      pure left : Reconcile ω EventType) :=
    .bind (.part (.edit edits _)) fun _ => .pure _
  have going : Done may (isGoing (ω := ω)) :=
    done_current fun doc => .bind (.ofExcept _) fun _ => .pure _
  refine .bind going fun going => ?_
  cases going with
  | true => exact cleaned .delete
  | false =>
      refine .bind (.part (.edit edits _)) fun changed => ?_
      cases changed with
      | true => exact .bind (Handling.done_persist writes edits) fun _ => cleaned type
      | false => exact cleaned type

end Reconciler
