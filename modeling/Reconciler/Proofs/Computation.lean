import Mathlib.Data.List.Forall2
import Mathlib.Logic.Relation
import Reconciler.Session

/-!
# Computations by their answers and final states

A computation with failures and a state is followed by two functions of the state that it starts in:
what it answers, and the state it leaves behind.  What was done before a failure stays done, so the
final state exists either way.  A computation keeps a view of the state when the view is the same
before and after it, and changes a view in steps when a chain of steps leads from the one to the other.
-/

namespace Reconciler

section Following

variable {ε σ τ α β : Type}

/-- What a computation answers. -/
def answer (act : EStateM ε σ α) (s : σ) : Except ε α :=
  match act s with
  | .ok a _ => .ok a
  | .error e _ => .error e

/-- The state that a computation leaves behind. -/
def final (act : EStateM ε σ α) (s : σ) : σ :=
  match act s with
  | .ok _ t => t
  | .error _ t => t

@[simp]
theorem answer_pure (a : α) (s : σ) : answer (pure a : EStateM ε σ α) s = .ok a := rfl

@[simp]
theorem final_pure (a : α) (s : σ) : final (pure a : EStateM ε σ α) s = s := rfl

theorem answer_bind (act : EStateM ε σ α) (next : α → EStateM ε σ β) (s : σ) :
    answer (act >>= next) s =
      match answer act s with
      | .ok a => answer (next a) (final act s)
      | .error e => .error e := by
  simp only [answer, final, bind, EStateM.bind]
  cases act s <;> rfl

theorem final_bind (act : EStateM ε σ α) (next : α → EStateM ε σ β) (s : σ) :
    final (act >>= next) s =
      match answer act s with
      | .ok a => final (next a) (final act s)
      | .error _ => final act s := by
  simp only [answer, final, bind, EStateM.bind]
  cases act s <;> rfl

theorem ok_of_toOption {outcome : Except ε α} {a : α} (given : outcome.toOption = some a) :
    outcome = .ok a := by
  cases outcome with
  | ok b => exact congrArg Except.ok (Option.some.inj given)
  | error e => contradiction

theorem ok_of_bind {outcome : Except ε α} {next : α → Except ε β} {b : β}
    (bound : (outcome >>= next) = .ok b) : ∃ a, outcome = .ok a ∧ next a = .ok b := by
  cases outcome with
  | ok a => exact ⟨a, rfl, bound⟩
  | error e => contradiction

/-- Where the work on each item succeeds, so does the work on the list of them. -/
theorem exists_mapM {f : α → Except ε β} {holds : α → β → Prop} {items : List α}
    (each : ∀ item ∈ items, ∃ result, f item = .ok result ∧ holds item result) :
    ∃ results, items.mapM f = .ok results ∧ List.Forall₂ holds items results := by
  induction items with
  | nil => exact ⟨[], rfl, .nil⟩
  | cons item rest ih =>
      obtain ⟨⟨result, done, fits⟩, others⟩ := List.forall_mem_cons.mp each
      obtain ⟨results, all_done, all_fit⟩ := ih others
      refine ⟨result :: results, ?_, .cons fits all_fit⟩
      rw [List.mapM_cons, done, all_done]
      rfl

theorem ok_of_answer_bind {act : EStateM ε σ α} {next : α → EStateM ε σ β} {s : σ} {b : β}
    (answered : answer (act >>= next) s = .ok b) :
    ∃ a, answer act s = .ok a ∧ answer (next a) (final act s) = .ok b := by
  rw [answer_bind] at answered
  cases first : answer act s with
  | ok a => exact ⟨a, rfl, by simpa [first] using answered⟩
  | error e => simp [first] at answered

section Answered

variable {act : EStateM ε σ α} {s : σ} {a : α} (answered : answer act s = .ok a)
include answered

theorem answer_bind_ok (next : α → EStateM ε σ β) :
    answer (act >>= next) s = answer (next a) (final act s) := by
  rw [answer_bind, answered]

theorem final_bind_ok (next : α → EStateM ε σ β) :
    final (act >>= next) s = final (next a) (final act s) := by
  rw [final_bind, answered]

end Answered

theorem final_bind_error {act : EStateM ε σ α} {s : σ} {e : ε} (failed : answer act s = .error e)
    (next : α → EStateM ε σ β) : final (act >>= next) s = final act s := by
  rw [final_bind, failed]

theorem answer_bind_pure (act : EStateM ε σ α) (f : α → β) (s : σ) :
    answer (do pure (f (← act))) s = (answer act s).map f := by
  rw [answer_bind]
  cases answer act s <;> rfl

theorem final_bind_pure (act : EStateM ε σ α) (f : α → β) (s : σ) :
    final (do pure (f (← act))) s = final act s := by
  rw [final_bind]
  cases answer act s <;> rfl

@[simp]
theorem answer_get (s : σ) : answer (get : EStateM ε σ σ) s = .ok s := rfl

@[simp]
theorem final_get (s : σ) : final (get : EStateM ε σ σ) s = s := rfl

@[simp]
theorem answer_modify (change : σ → σ) (s : σ) :
    answer (modify change : EStateM ε σ PUnit) s = .ok ⟨⟩ := rfl

@[simp]
theorem final_modify (change : σ → σ) (s : σ) :
    final (modify change : EStateM ε σ PUnit) s = change s := rfl

@[simp]
theorem answer_ofExcept (outcome : Except ε α) (s : σ) :
    answer (ofExcept outcome : EStateM ε σ α) s = outcome := by
  cases outcome <;> rfl

@[simp]
theorem final_ofExcept (outcome : Except ε α) (s : σ) :
    final (ofExcept outcome : EStateM ε σ α) s = s := by
  cases outcome <;> rfl

@[simp]
theorem answer_attempt (act : EStateM ε σ α) (s : σ) :
    answer (attempt act) s = .ok (answer act s) := by
  simp only [answer, attempt]
  cases act s <;> rfl

@[simp]
theorem final_attempt (act : EStateM ε σ α) (s : σ) : final (attempt act) s = final act s := by
  simp only [final, attempt]
  cases act s <;> rfl

@[simp]
theorem answer_within (part : τ → σ) (withPart : σ → τ → τ) (act : EStateM ε σ α) (t : τ) :
    answer (within part withPart act) t = answer act (part t) := by
  simp only [answer, within]
  cases act (part t) <;> rfl

@[simp]
theorem final_within (part : τ → σ) (withPart : σ → τ → τ) (act : EStateM ε σ α) (t : τ) :
    final (within part withPart act) t = withPart (final act (part t)) t := by
  simp only [final, within]
  cases act (part t) <;> rfl

end Following

/-- A computation leaves a view of the state as it was. -/
def Keeps {ε σ α β : Type} (view : σ → β) (act : EStateM ε σ α) : Prop :=
  ∀ s, view (final act s) = view s

section Keeping

variable {ε σ τ α β γ : Type} {view : σ → γ} {act : EStateM ε σ α} {next : α → EStateM ε σ β}

@[simp]
theorem keeps_pure (a : α) : Keeps view (pure a : EStateM ε σ α) :=
  fun _ => rfl

@[simp]
theorem keeps_throw (e : ε) : Keeps view (throw e : EStateM ε σ α) :=
  fun _ => rfl

@[simp]
theorem keeps_get : Keeps view (get : EStateM ε σ σ) :=
  fun _ => rfl

@[simp]
theorem keeps_ofExcept (outcome : Except ε α) :
    Keeps view (ofExcept outcome : EStateM ε σ α) := by
  intro s
  rw [final_ofExcept]

theorem keeps_modify {change : σ → σ} (kept : ∀ s, view (change s) = view s) :
    Keeps view (modify change : EStateM ε σ PUnit) :=
  kept

/-- What keeps a view may follow a computation unseen. -/
theorem view_final_bind (view : σ → γ) (kept_next : ∀ a, Keeps view (next a)) (s : σ) :
    view (final (act >>= next) s) = view (final act s) := by
  rw [final_bind]
  cases answer act s with
  | ok a => exact kept_next a _
  | error e => rfl

theorem keeps_bind (kept : Keeps view act) (kept_next : ∀ a, Keeps view (next a)) :
    Keeps view (act >>= next) :=
  fun s => (view_final_bind view kept_next s).trans (kept s)

theorem keeps_attempt (kept : Keeps view act) : Keeps view (attempt act) := by
  intro s
  rw [final_attempt, kept]

/-- A view of a part is kept by work on the part. -/
theorem keeps_within {part : τ → σ} {withPart : σ → τ → τ}
    (lawful : ∀ s t, part (withPart s t) = s) (kept : Keeps view act) :
    Keeps (fun t => view (part t)) (within part withPart act) := by
  intro t
  simp only [final_within, lawful, kept (part t)]

/-- A view that does not show a part is kept by work on the part. -/
theorem keeps_within_apart {part : τ → σ} {withPart : σ → τ → τ} {view : τ → γ}
    (apart : ∀ s t, view (withPart s t) = view t) :
    Keeps view (within part withPart act) := by
  intro t
  rw [final_within, apart]

end Keeping

/-- A computation changes a view of the state in steps of a kind. -/
def Proceeds {ε σ α β : Type} (view : σ → β) (step : β → β → Prop) (act : EStateM ε σ α) : Prop :=
  ∀ s, Relation.ReflTransGen step (view s) (view (final act s))

section Proceeding

open Relation (ReflTransGen)

variable {ε σ τ α β γ : Type} {view : σ → γ} {step : γ → γ → Prop} {act : EStateM ε σ α}
  {next : α → EStateM ε σ β}

theorem Keeps.proceeds (kept : Keeps view act) : Proceeds view step act := by
  intro s
  rw [kept s]

/-- A sequence proceeds from a state when its parts do, the second from where the first answered. -/
theorem proceeds_bind_at {s : σ} (first : ReflTransGen step (view s) (view (final act s)))
    (rest : ∀ a, answer act s = .ok a →
      ReflTransGen step (view (final act s)) (view (final (next a) (final act s)))) :
    ReflTransGen step (view s) (view (final (act >>= next) s)) := by
  rw [final_bind]
  cases answered : answer act s with
  | ok a => exact first.trans (rest a answered)
  | error e => exact first

theorem proceeds_bind (first : Proceeds view step act)
    (rest : ∀ a, Proceeds view step (next a)) : Proceeds view step (act >>= next) :=
  fun s => proceeds_bind_at (first s) fun a _ => rest a _

/-- What follows something that is worked out proceeds when it does for what comes of that. -/
theorem proceeds_ofExcept_bind {outcome : Except ε α}
    (rest : ∀ a, outcome = .ok a → Proceeds view step (next a)) :
    Proceeds view step (ofExcept outcome >>= next) :=
  fun s => proceeds_bind_at ((keeps_ofExcept outcome).proceeds s) fun a answered =>
    rest a ((answer_ofExcept outcome s).symm.trans answered) _

theorem proceeds_attempt (proceeds : Proceeds view step act) :
    Proceeds view step (attempt act) := by
  intro s
  rw [final_attempt]
  exact proceeds s

/-- A loop over a list proceeds when each of its rounds does. -/
theorem proceeds_forIn {δ : Type} {items : List δ} (start : α)
    {round : δ → α → EStateM ε σ (ForInStep α)}
    (proceeds : ∀ item ∈ items, ∀ a, Proceeds view step (round item a)) :
    Proceeds view step (forIn items start round) := by
  induction items generalizing start with
  | nil => exact (keeps_pure start).proceeds
  | cons item rest ih =>
      rw [List.forIn_cons]
      refine proceeds_bind (proceeds item (by simp) start) fun result => ?_
      cases result with
      | done a => exact (keeps_pure a).proceeds
      | yield a => exact ih a fun item member => proceeds item (by simp [member])

end Proceeding

/-- A computation is put together from parts of a kind, from what it works out itself, and from what
became of parts of it. -/
inductive Composed {ε σ : Type} (Part : (α : Type) → EStateM ε σ α → Prop) :
    {α : Type} → EStateM ε σ α → Prop where
  /-- A part is a computation. -/
  | part {α : Type} {act : EStateM ε σ α} (own : Part α act) : Composed Part act
  /-- An outcome is worked out without the state. -/
  | ofExcept {α : Type} (outcome : Except ε α) : Composed Part (ofExcept outcome)
  /-- One computation follows another. -/
  | bind {α β : Type} {act : EStateM ε σ α} {next : α → EStateM ε σ β} (first : Composed Part act)
    (rest : ∀ a, Composed Part (next a)) : Composed Part (act >>= next)
  /-- A computation may fail without an end to what follows. -/
  | attempt {α : Type} {act : EStateM ε σ α} (tried : Composed Part act) :
    Composed Part (attempt act)

/-- A computation cannot tell related states apart: it answers the same, and leaves related states
behind. -/
def Respects {ε σ α : Type} (related : σ → σ → Prop) (act : EStateM ε σ α) : Prop :=
  ∀ s t, related s t → answer act s = answer act t ∧ related (final act s) (final act t)

section Respecting

variable {ε σ τ α β : Type} {related : σ → σ → Prop} {act : EStateM ε σ α}
  {next : α → EStateM ε σ β}

theorem respects_ofExcept (outcome : Except ε α) :
    Respects related (ofExcept outcome : EStateM ε σ α) := by
  intro s t same
  simpa using same

theorem respects_bind (first : Respects related act) (rest : ∀ a, Respects related (next a)) :
    Respects related (act >>= next) := by
  intro s t same
  obtain ⟨answers, left⟩ := first s t same
  rw [answer_bind, answer_bind, final_bind, final_bind, answers]
  cases answer act t with
  | ok a => exact rest a _ _ left
  | error e => exact ⟨rfl, left⟩

theorem respects_attempt (tried : Respects related act) : Respects related (attempt act) := by
  intro s t same
  obtain ⟨answers, left⟩ := tried s t same
  simpa [answers] using left

/-- Work on a part respects a relation when it respects the one of the parts. -/
theorem respects_within {part : τ → σ} {withPart : σ → τ → τ} {whole : τ → τ → Prop}
    (parts : ∀ s t, whole s t → related (part s) (part t))
    (back : ∀ s t, whole s t → ∀ a b, related a b → whole (withPart a s) (withPart b t))
    (respects : Respects related act) : Respects whole (within part withPart act) := by
  intro s t same
  obtain ⟨answers, left⟩ := respects _ _ (parts s t same)
  rw [answer_within, answer_within, final_within, final_within]
  exact ⟨answers, back s t same _ _ left⟩

end Respecting

namespace Composed

variable {ε σ α β γ : Type} {Part : (α : Type) → EStateM ε σ α → Prop} {act : EStateM ε σ α}
  {next : α → EStateM ε σ β}

protected theorem pure (a : α) : Composed Part (pure a) :=
  .ofExcept (.ok a)

protected theorem throw (e : ε) : Composed Part (throw e : EStateM ε σ α) :=
  .ofExcept (.error e)

/-- Work that is done on a condition, and the work that follows either way. -/
theorem when {p : Prop} [Decidable p] {first : EStateM ε σ PUnit} {next : PUnit → EStateM ε σ β}
    (composed : Composed Part first) (rest : ∀ a, Composed Part (next a)) :
    Composed Part (if p then first >>= next else next ⟨⟩) := by
  split
  · exact .bind composed rest
  · exact rest ⟨⟩

/-- What all parts keep is kept. -/
theorem keeps {view : σ → γ}
    (parts : ∀ (α : Type) (act : EStateM ε σ α), Part α act → Keeps view act)
    (composed : Composed Part act) : Keeps view act := by
  induction composed with
  | part own => exact parts _ _ own
  | ofExcept outcome => exact keeps_ofExcept outcome
  | bind _ _ first rest => exact keeps_bind first rest
  | attempt _ tried => exact keeps_attempt tried

/-- States that no part can tell apart are not told apart. -/
theorem respects {related : σ → σ → Prop}
    (parts : ∀ (α : Type) (act : EStateM ε σ α), Part α act → Respects related act)
    (composed : Composed Part act) : Respects related act := by
  induction composed with
  | part own => exact parts _ _ own
  | ofExcept outcome => exact respects_ofExcept outcome
  | bind _ _ first rest => exact respects_bind first rest
  | attempt _ tried => exact respects_attempt tried

end Composed

end Reconciler
