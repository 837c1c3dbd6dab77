import Reconciler.Proofs.Session.Record

/-!
# The trail of a document

A document at hand is edited and written to the cluster in turns.  Its trail shows the tree at hand and
what was written so far: each write carries the tree as it is at hand, and the version that the cluster
answers is taken over before anything else is done to the tree.
-/

namespace Reconciler

open Relation (ReflTransGen)

/-- A tree at hand, and what was written to the cluster so far. -/
structure Trail where
  /-- The tree. -/
  object : Value
  /-- The writes in their order. -/
  writes : List Write

namespace Trail

/-- What is done to a tree at hand that is edited at several paths. -/
inductive Step (paths : List (List String)) : Trail → Trail → Prop where
  /-- The tree is edited. -/
  | edited {v w : Value} (touched : Value.Touched paths v w) (writes : List Write) :
    Step paths ⟨v, writes⟩ ⟨w, writes⟩
  /-- The tree is written, and the version that the cluster answers is taken over. -/
  | wrote {v : Value} {write : Write} (own : write.body = v) (writes : List Write) :
    Step paths ⟨v, writes⟩ ⟨Document.stamped v write.version?, writes ++ [write]⟩

/-- Edits and writes of a tree at hand, one after the other. -/
abbrev Run (paths : List (List String)) : Trail → Trail → Prop :=
  ReflTransGen (Step paths)

variable {paths : List (List String)} {before after : Trail}

theorem Step.mono {more : List (List String)} (subset : paths ⊆ more)
    (step : Step paths before after) : Step more before after := by
  cases step with
  | edited touched writes => exact .edited (touched.mono subset) writes
  | wrote own writes => exact .wrote own writes

theorem Run.mono {more : List (List String)} (subset : paths ⊆ more)
    (run : Run paths before after) : Run more before after :=
  ReflTransGen.mono (fun _ _ step => Step.mono subset step) before after run

/-- Edits alone are a run without writes. -/
theorem run_of_edited {v w : Value} (edited : Value.Edited paths v w) (writes : List Write) :
    Run paths ⟨v, writes⟩ ⟨w, writes⟩ := by
  induction edited with
  | refl => exact .refl
  | tail _ touched ih => exact ih.tail (.edited touched writes)

/-! ## What a run writes -/

theorem edited_stamped (version : Option String) (v : Value) :
    Value.Edited (Document.versionPath :: paths) v (Document.stamped v version) := by
  cases version with
  | none => exact .refl
  | some version => exact .written (by simp) _ v

/-- All that a run writes is edited from the tree that was at hand before, and so is the tree that it
leaves behind. -/
theorem Run.edited (run : Run paths before after) :
    ∃ made, after.writes = before.writes ++ made ∧
      Value.Edited (Document.versionPath :: paths) before.object after.object ∧
      ∀ write ∈ made,
        Value.Edited (Document.versionPath :: paths) before.object write.body := by
  induction run with
  | refl => exact ⟨[], by simp, .refl, by simp⟩
  | tail _ step ih =>
      obtain ⟨made, grown, edited, bodies⟩ := ih
      cases step with
      | edited touched writes =>
          exact ⟨made, grown, edited.tail (touched.mono (by simp)), bodies⟩
      | @wrote v write own writes =>
          refine ⟨made ++ [write], ?_, edited.trans (edited_stamped _ v), ?_⟩
          · rw [← List.append_assoc, ← grown]
          · intro other member
            rcases List.mem_append.mp member with earlier | last
            · exact bodies other earlier
            · rw [List.mem_singleton.mp last, own]
              exact edited

/-- What lies apart from the version and from the edited paths reads after a run as before. -/
theorem Run.follow_eq (run : Run paths before after) {other : List String}
    (apart : ∀ path ∈ Document.versionPath :: paths, Apart path other) :
    after.object.follow other = before.object.follow other := by
  obtain ⟨-, -, edited, -⟩ := run.edited
  exact edited.follow_eq apart

/-! ## The versions that a run writes -/

/-- The version that a tree carries after writes: the last one that the cluster answered, or that of the
tree at the start. -/
def carried (start : Except PathFault Value) (made : List Write) : Except PathFault Value :=
  match (made.filterMap Write.version?).getLast? with
  | some version => .ok (.text version)
  | none => start

theorem carried_append (start : Except PathFault Value) (made more : List Write) :
    carried start (made ++ more) = carried (carried start made) more := by
  unfold carried
  rw [List.filterMap_append, List.getLast?_append]
  cases (more.filterMap Write.version?).getLast? <;> rfl

theorem carried_singleton (start : Except PathFault Value) (write : Write) :
    carried start [write] =
      match write.version? with
      | some version => .ok (.text version)
      | none => start := by
  unfold carried
  cases answered : write.version? <;> simp [answered]

/-- Each of several writes carries the version that the cluster answered last. -/
def Carries (start : Except PathFault Value) (made : List Write) : Prop :=
  ∀ earlier write later, made = earlier ++ write :: later →
    write.body.follow Document.versionPath = carried start earlier

theorem carries_nil (start : Except PathFault Value) : Carries start [] := by
  simp [Carries]

theorem carries_singleton {start : Except PathFault Value} {write : Write}
    (first : write.body.follow Document.versionPath = start) : Carries start [write] := by
  intro earlier other later split
  cases earlier with
  | nil =>
      obtain rfl : write = other := (List.cons.inj split).1
      exact first
  | cons head rest => simp at split

theorem Carries.append {start : Except PathFault Value} {made more : List Write}
    (first : Carries start made) (second : Carries (carried start made) more) :
    Carries start (made ++ more) := by
  intro earlier write later split
  -- The write stands in the second part, or it stands in the first one or at the seam.
  rcases List.append_eq_append_iff.mp split with ⟨between, rfl, rest⟩ | ⟨between, rest, split⟩
  · rw [second between write later rest, carried_append]
  · cases between with
    | nil =>
        rw [List.append_nil] at rest
        rw [second [] write later split.symm, rest]
        rfl
    | cons head between =>
        obtain rfl : write = head := (List.cons.inj split).1
        exact first earlier write between rest

theorem hasRoom_stamped {v : Value} (room : v.HasRoom "metadata") (version : Option String) :
    (Document.stamped v version).HasRoom "metadata" := by
  have edited : Value.Edited [Document.versionPath] v (Document.stamped v version) :=
    edited_stamped version v
  exact edited.hasRoom (by simp [Document.versionPath]) room

theorem follow_stamped {v : Value} (room : v.HasRoom "metadata") (version : Option String) :
    (Document.stamped v version).follow Document.versionPath =
      match version with
      | some version => .ok (.text version)
      | none => v.follow Document.versionPath := by
  cases version with
  | none => rfl
  | some version =>
      obtain ⟨written, done⟩ := room.exists_write "resourceVersion" (.text version)
      have stamped : Document.stamped v (some version) = written := by
        simp [Document.stamped, Value.written, Document.versionPath, done]
      rw [stamped]
      exact Value.follow_write done

/-- Every write of a run carries the version that the cluster answered last, and so does the tree that
the run leaves behind. -/
theorem Run.versions (run : Run paths before after)
    (apart : ∀ path ∈ paths, Apart path Document.versionPath)
    (deep : ∀ path ∈ paths, 2 ≤ path.length) (room : before.object.HasRoom "metadata") :
    ∃ made, after.writes = before.writes ++ made ∧ after.object.HasRoom "metadata" ∧
      after.object.follow Document.versionPath =
        carried (before.object.follow Document.versionPath) made ∧
      Carries (before.object.follow Document.versionPath) made := by
  induction run with
  | refl => exact ⟨[], by simp, room, rfl, carries_nil _⟩
  | tail _ step ih =>
      obtain ⟨made, grown, room, version, carries⟩ := ih
      -- An edit is apart from the version; a write carries it, and then takes over the answered one.
      cases step with
      | edited touched writes =>
          exact ⟨made, grown, touched.hasRoom deep room, (touched.follow_eq apart).trans version,
            carries⟩
      | @wrote v write own writes =>
          refine ⟨made ++ [write], ?_, hasRoom_stamped room _, ?_, ?_⟩
          · rw [← List.append_assoc, ← grown]
          · rw [follow_stamped room, carried_append, carried_singleton, ← version]
          · refine carries.append (carries_singleton ?_)
            rw [own]
            exact version

end Trail

end Reconciler
