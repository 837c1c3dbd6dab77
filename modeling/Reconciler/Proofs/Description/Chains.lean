import Mathlib.Data.Finset.Card
import Reconciler.Proofs.Description.References

/-!
# Chains of references, followed in rounds

A chain of references is followed in a loop that looks at one reference in each round.  Each reference that
it follows is a new one, and all nodes but the first one belong to the document, so that the loop comes to its
end within two rounds more than the document has different references.  As a node has one reference at most,
the end is the only one that the chain can have.
-/

namespace Reconciler.Description

open Relation

variable {d : Description} {node : Value} {outcome : Except Failure Value} {n bound : Nat}
  {seen known : List String}

/-! ## Rounds of the loop -/

/-- The loop that has seen some references and comes to a node enters its body a number of times before it
ends with the outcome. -/
inductive Rounds (d : Description) : List String → Value → Nat → Except Failure Value → Prop where
  /-- The loop is left at a node that is no reference. -/
  | left {seen : List String} {node : Value} (concrete : reference? node = none) :
      Rounds d seen node 0 (.ok node)
  /-- The reference was seen before. -/
  | again {seen : List String} {node : Value} {s : String} (refers : reference? node = some (.text s))
      (before : s ∈ seen) : Rounds d seen node 1 (.error (.validation (.circularReference s)))
  /-- The reference leads nowhere. -/
  | dangling {seen : List String} {node : Value} {s : String} {failure : Failure}
      (refers : reference? node = some (.text s)) (fresh : s ∉ seen)
      (fails : d.resolve (.text s) = .error failure) : Rounds d seen node 1 (.error failure)
  /-- The reference leads to the node of the next round. -/
  | followed {seen : List String} {node next : Value} {s : String} {n : Nat} {outcome : Except Failure Value}
      (refers : reference? node = some (.text s)) (fresh : s ∉ seen)
      (found : d.resolve (.text s) = .ok next) (rest : Rounds d (s :: seen) next n outcome) :
      Rounds d seen node (n + 1) outcome

theorem seen_iff {s : String} : ((seen.map Value.text).any (·.equal (.text s))) = true ↔ s ∈ seen := by
  simp [Value.equal_text_iff]

namespace Rounds

/-- The node at which the loop begins tells the rounds. -/
theorem unique {n' : Nat} {outcome' : Except Failure Value} (rounds : Rounds d seen node n outcome)
    (others : Rounds d seen node n' outcome') : n' = n ∧ outcome' = outcome := by
  induction rounds generalizing n' with
  | left concrete => cases others <;> simp_all
  | again refers before => cases others <;> simp_all
  | dangling refers fresh fails => cases others <;> simp_all
  | followed refers fresh found rest ih =>
      cases others with
      | left concrete => simp [refers] at concrete
      | again refers' before =>
          cases refers.symm.trans refers'
          exact absurd before fresh
      | dangling refers' _ fails =>
          cases refers.symm.trans refers'
          cases found.symm.trans fails
      | followed refers' _ found' rest' =>
          cases refers.symm.trans refers'
          cases found.symm.trans found'
          exact (ih rest').imp_left (congrArg (· + 1))

/-- The search has the outcome of the loop when its bound allows for the rounds, and for the look at the node
at which the loop is left. -/
theorem derefFrom_eq (rounds : Rounds d seen node n outcome) (enough : n ≤ bound)
    (looks : ∀ final, outcome = .ok final → n < bound) :
    derefFrom d (seen.map .text) node bound = outcome := by
  induction rounds generalizing bound with
  | left concrete =>
      obtain ⟨bound, rfl⟩ := Nat.exists_eq_add_of_lt (looks _ rfl)
      rw [derefFrom, concrete]
  | again refers before =>
      obtain ⟨bound, rfl⟩ := Nat.exists_eq_add_of_le' enough
      rw [derefFrom, refers]
      exact if_pos (seen_iff.mpr before)
  | dangling refers fresh fails =>
      obtain ⟨bound, rfl⟩ := Nat.exists_eq_add_of_le' enough
      rw [derefFrom, refers]
      dsimp only
      rw [if_neg (mt seen_iff.mp fresh), fails]
  | followed refers fresh found rest ih =>
      obtain ⟨bound, rfl⟩ := Nat.exists_eq_add_of_le' (Nat.le_of_add_left_le enough)
      rw [derefFrom, refers]
      dsimp only
      rw [if_neg (mt seen_iff.mp fresh), found]
      exact ih (Nat.le_of_succ_le_succ enough) fun final ended => Nat.lt_of_succ_lt_succ (looks final ended)

end Rounds

/-! ## The number of rounds -/

theorem length_le_card (distinct : seen.Nodup) (listed : seen ⊆ known) :
    seen.length ≤ known.toFinset.card := by
  rw [← List.toFinset_card_of_nodup distinct]
  exact Finset.card_le_card fun s mem => List.mem_toFinset.mpr (listed (List.mem_toFinset.mp mem))

/-- The loop ends when all references on the chain are known, and the references that it follows are different
ones among them. -/
theorem exists_rounds
    (texts : ∀ last, ReflTransGen d.Points node last → ∀ ref, reference? last = some ref →
      ∃ s ∈ known, ref = .text s)
    (distinct : seen.Nodup) (listed : seen ⊆ known) :
    ∃ n outcome, Rounds d seen node n outcome ∧ n + seen.length ≤ known.toFinset.card + 1 ∧
      ∀ final, outcome = .ok final → n + seen.length ≤ known.toFinset.card := by
  have few := length_le_card distinct listed
  -- The known references that were not seen get fewer in each round that does not end the loop.
  induction spare : known.toFinset.card - seen.length using Nat.strong_induction_on
    generalizing node seen with
  | _ spare ih =>
    cases refers : reference? node with
    | none => exact ⟨0, _, .left refers, by omega, fun _ _ => by omega⟩
    | some ref =>
        obtain ⟨s, s_known, rfl⟩ := texts node .refl ref refers
        by_cases before : s ∈ seen
        · exact ⟨1, _, .again refers before, by omega, nofun⟩
        cases found : d.resolve (.text s) with
        | error failure => exact ⟨1, _, .dangling refers before found, by omega, nofun⟩
        | ok next =>
            have distinct' : (s :: seen).Nodup := List.nodup_cons.mpr ⟨before, distinct⟩
            have listed' : s :: seen ⊆ known := List.cons_subset.mpr ⟨s_known, listed⟩
            have few' := length_le_card distinct' listed'
            have longer : (s :: seen).length = seen.length + 1 := List.length_cons
            have points : d.Points node next := ⟨_, refers, found⟩
            obtain ⟨n, outcome, rounds, bounded, ended⟩ :=
              ih _ (by omega) (fun last chain => texts last (.head points chain)) distinct' listed' few' rfl
            refine ⟨n + 1, outcome, .followed refers before found rounds, by omega, fun final ok => ?_⟩
            have := ended final ok
            omega

/-! ## References on a chain -/

section Texts

variable (texts : ∀ node, d.IsNode node → ∀ ref, reference? node = some ref → ∃ s, ref = .text s)
  (own_text : ∀ ref, reference? node = some ref → ∃ s, ref = .text s)

include texts own_text

/-- The references on a chain are that of its first node and references of the document. -/
theorem reference_known {last ref : Value} (chain : ReflTransGen d.Points node last)
    (refers : reference? last = some ref) : ∃ s ∈ ownReference node ++ d.references, ref = .text s := by
  cases chain with
  | refl =>
      obtain ⟨s, rfl⟩ := own_text ref refers
      exact ⟨s, List.mem_append_left _ (mem_ownReference.mpr refers), rfl⟩
  | tail _ points =>
      obtain ⟨_, _, found⟩ := points
      have own := isNode_of_resolve found
      obtain ⟨s, rfl⟩ := texts last own ref refers
      exact ⟨s, List.mem_append_right _ (mem_references.mpr ⟨last, own, refers⟩), rfl⟩

omit texts own_text in
theorem length_ownReference (node : Value) : (ownReference node).length ≤ 1 := by
  unfold ownReference
  split <;> simp

omit texts own_text in
theorem card_known (d : Description) (node : Value) :
    (ownReference node ++ d.references).toFinset.card ≤ d.references.toFinset.card + 1 := by
  have own := (ownReference node).toFinset_card_le.trans (length_ownReference node)
  rw [List.toFinset_append]
  have := Finset.card_union_le (ownReference node).toFinset d.references.toFinset
  omega

/-- The search runs through the loop, in two rounds more at most than the document has different
references. -/
theorem exists_rounds_deref :
    ∃ n ≤ d.references.toFinset.card + 2, Rounds d [] node n (d.deref node) := by
  obtain ⟨n, outcome, rounds, bounded, ended⟩ :=
    exists_rounds (fun _ chain _ => reference_known texts own_text chain) List.nodup_nil (List.nil_subset _)
  rw [List.length_nil] at bounded ended
  have known := card_known d node
  have few := d.references.toFinset_card_le
  refine ⟨n, by omega, ?_⟩
  have same : d.deref node = outcome := by
    unfold deref
    cases refers : reference? node with
    | none => exact (rounds.unique (.left refers)).2
    | some ref =>
        refine rounds.derefFrom_eq (by omega) fun final ok => ?_
        have := ended final ok
        omega
  rwa [same]

/-- The search ends as the chain does. -/
theorem ends_deref : Ends d node (d.deref node) := by
  unfold deref
  cases refers : reference? node with
  | none => exact .reached .refl refers
  | some ref =>
      refine ends_derefFrom (fun _ chain _ => reference_known texts own_text chain) [] .refl List.nodup_nil
        (List.nil_subset _) (by simp) ?_
      have := length_ownReference node
      rw [List.length_append, List.length_nil]
      omega

end Texts

/-! ## The end of a chain -/

section Course

variable {a b reference : Value} {ref : String}

theorem points_rightUnique : Relator.RightUnique d.Points := by
  rintro node first second ⟨ref, refers, found⟩ ⟨ref', refers', found'⟩
  cases refers.symm.trans refers'
  exact Except.ok.inj (found.symm.trans found')

/-- All nodes of a chain lead to its end. -/
theorem leads_to_end (chain : ReflTransGen d.Points node a) (ends : ∀ next, ¬d.Points a next)
    (other : ReflTransGen d.Points node b) : ReflTransGen d.Points b a := by
  obtain onward | back := other.total_of_right_unique points_rightUnique chain
  · exact onward
  · obtain rfl | ⟨next, points, _⟩ := ReflTransGen.cases_head_iff.mp back
    · exact .refl
    · exact absurd points (ends next)

/-- A chain has one end. -/
theorem end_unique (chain : ReflTransGen d.Points node a) (ends : ∀ next, ¬d.Points a next)
    (other : ReflTransGen d.Points node b) (ends' : ∀ next, ¬d.Points b next) : b = a := by
  obtain same | ⟨next, points, _⟩ := ReflTransGen.cases_head_iff.mp (leads_to_end chain ends other)
  · exact same
  · exact absurd points (ends' next)

/-- A chain does not leave a circle. -/
theorem circle_of_chain (circle : TransGen d.Points a a) (chain : ReflTransGen d.Points a b) :
    TransGen d.Points b b := by
  induction chain with
  | refl => exact circle
  | tail _ points ih =>
      obtain ⟨next, points', back⟩ := TransGen.head'_iff.mp ih
      obtain rfl := points_rightUnique points points'
      exact TransGen.tail' back points

theorem not_points_of_concrete (concrete : reference? a = none) : ¬d.Points a b := by
  rintro ⟨ref, refers, -⟩
  cases concrete.symm.trans refers

theorem not_points_of_dangling {failure : Failure} (refers : reference? a = some reference)
    (fails : d.resolve reference = .error failure) : ¬d.Points a b := by
  rintro ⟨ref', refers', found⟩
  cases refers.symm.trans refers'
  cases fails.symm.trans found

/-- A chain with an end has no circle. -/
theorem no_circle (chain : ReflTransGen d.Points node a) (ends : ∀ next, ¬d.Points a next)
    (other : ReflTransGen d.Points node b) : ¬TransGen d.Points b b := by
  intro circle
  obtain ⟨next, points, _⟩ :=
    TransGen.head'_iff.mp (circle_of_chain circle (leads_to_end chain ends other))
  exact ends next points

/-- All references on the chain from the node lead to nodes. -/
def Resolves (d : Description) (node : Value) : Prop :=
  ∀ last, ReflTransGen d.Points node last → ∀ ref, reference? last = some ref →
    ∃ next, d.resolve ref = .ok next

/-- Two nodes on the chain from the node, one behind the other, have the same reference. -/
def Repeats (d : Description) (node : Value) : Prop :=
  ∃ first later s, ReflTransGen d.Points node first ∧ TransGen d.Points first later ∧
    reference? first = some (.text s) ∧ reference? later = some (.text s)

/-- Where a reference repeats and leads on, the chain runs into a circle. -/
theorem Repeats.exists_circle (repeats : Repeats d node) (resolves : Resolves d node) :
    ∃ inside, ReflTransGen d.Points node inside ∧ TransGen d.Points inside inside := by
  obtain ⟨first, later, s, chain, behind, refers_first, refers_later⟩ := repeats
  obtain ⟨next, found⟩ := resolves later (chain.trans behind.to_reflTransGen) _ refers_later
  have points : d.Points later next := ⟨_, refers_later, found⟩
  -- The same reference leads from the first node to the same next one.
  obtain ⟨after, points_first, back⟩ := TransGen.head'_iff.mp behind
  obtain rfl : next = after := points_rightUnique ⟨_, refers_first, found⟩ points_first
  exact ⟨next, chain.tail points_first, TransGen.tail' back points⟩

/-- On a chain with a circle all references lead to nodes. -/
theorem resolves_of_circle {inside : Value} (chain : ReflTransGen d.Points node inside)
    (circle : TransGen d.Points inside inside) : Resolves d node := by
  intro last to_last ref refers
  have onward : ∃ further, TransGen d.Points last further := by
    obtain before | after := to_last.total_of_right_unique points_rightUnique chain
    · exact ⟨inside, TransGen.trans_right before circle⟩
    · exact ⟨last, circle_of_chain circle after⟩
  obtain ⟨further, behind⟩ := onward
  obtain ⟨next, ⟨ref', refers', found⟩, _⟩ := TransGen.head'_iff.mp behind
  cases refers.symm.trans refers'
  exact ⟨next, found⟩

/-! ## Reports of circles -/

theorem step_ne_validation {key : String} {fault : ValidationFault} :
    step node key ≠ .error (.validation fault) := by
  unfold step
  grind

/-- A reference that leads nowhere is not reported as a circle. -/
theorem followKeys_ne_circular {s : String} {keys : List String} :
    followKeys ref node keys ≠ .error (.validation (.circularReference s)) := by
  induction keys generalizing node with
  | nil => simp [followKeys]
  | cons key keys ih =>
      rw [followKeys]
      split
      next failure fails =>
        rintro ⟨⟩
        exact step_ne_validation fails
      next => simp [invalid]
      next => exact ih

theorem resolve_ne_circular {s : String} :
    d.resolve reference ≠ .error (.validation (.circularReference s)) := by
  unfold resolve
  split
  · split
    · split
      · simp
      · exact followKeys_ne_circular
    · simp [invalid]
  · simp [invalid]

end Course

/-! ## The search -/

section Search

variable (texts : ∀ node, d.IsNode node → ∀ ref, reference? node = some ref → ∃ s, ref = .text s)
  (own_text : ∀ ref, reference? node = some ref → ∃ s, ref = .text s)

include texts own_text

/-- The search finds the node at which the chain ends. -/
theorem deref_eq_ok_iff {final : Value} :
    d.deref node = .ok final ↔ ReflTransGen d.Points node final ∧ reference? final = none := by
  have ends := ends_deref texts own_text
  generalize d.deref node = outcome at ends ⊢
  constructor
  · rintro rfl
    cases ends with
    | reached chain concrete => exact ⟨chain, concrete⟩
  · rintro ⟨chain, concrete⟩
    have last : ∀ next, ¬d.Points final next := fun _ => not_points_of_concrete concrete
    cases ends with
    | reached chain' concrete' =>
        rw [end_unique chain last chain' fun _ => not_points_of_concrete concrete']
    | circular chain' circle refers =>
        exact absurd circle (no_circle chain last chain')
    | dangling chain' refers fails =>
        obtain rfl := end_unique chain last chain' fun _ => not_points_of_dangling refers fails
        cases concrete.symm.trans refers

/-- The search reports a circle where all references of the chain lead to nodes and one of them repeats. -/
theorem deref_eq_circular_iff :
    (∃ ref, d.deref node = .error (.validation (.circularReference ref))) ↔
      Resolves d node ∧ Repeats d node := by
  have ends := ends_deref texts own_text
  generalize d.deref node = outcome at ends ⊢
  constructor
  · rintro ⟨ref, rfl⟩
    cases ends with
    | circular chain circle refers =>
        exact ⟨resolves_of_circle chain circle, _, _, ref, chain, circle, refers, refers⟩
    | dangling _ _ fails => exact absurd fails resolve_ne_circular
  · rintro ⟨resolves, repeats⟩
    cases ends with
    | reached chain concrete =>
        obtain ⟨inside, chain', circle⟩ := repeats.exists_circle resolves
        exact absurd circle (no_circle chain (fun _ => not_points_of_concrete concrete) chain')
    | circular _ _ _ => exact ⟨_, rfl⟩
    | dangling chain refers fails =>
        obtain ⟨next, found⟩ := resolves _ chain _ refers
        cases fails.symm.trans found

/-- The loop of the search has one course, of two rounds more at most than the document has different
references; it finds the node at which the chain ends, and reports a circle exactly where all references of
the chain lead to nodes and one of them repeats. -/
theorem deref_terminates :
    (∃ n ≤ d.references.toFinset.card + 2, ∀ m outcome,
      Rounds d [] node m outcome ↔ m = n ∧ outcome = d.deref node) ∧
      (∀ final, d.deref node = .ok final ↔
        ReflTransGen d.Points node final ∧ reference? final = none) ∧
        ((∃ ref, d.deref node = .error (.validation (.circularReference ref))) ↔
          Resolves d node ∧ Repeats d node) := by
  obtain ⟨n, bounded, rounds⟩ := exists_rounds_deref texts own_text
  refine ⟨⟨n, bounded, fun m outcome => ⟨rounds.unique, ?_⟩⟩, fun _ => deref_eq_ok_iff texts own_text,
    deref_eq_circular_iff texts own_text⟩
  rintro ⟨rfl, rfl⟩
  exact rounds

end Search

/-- A chain of two references from outside the document, and the reference to itself. -/
theorem deref_terminates_chained :
    (∃ n ≤ chained.references.toFinset.card + 2, ∀ m outcome,
      Rounds chained [] (pointer "#/first") m outcome ↔
        m = n ∧ outcome = chained.deref (pointer "#/first")) ∧
      chained.deref (pointer "#/first") = .ok (.int 1) ∧
        Resolves chained (pointer "#/circle") ∧ Repeats chained (pointer "#/circle") := by
  have own_text (place : String) : ∀ ref, reference? (pointer place) = some ref → ∃ s, ref = .text s :=
    fun _ refers => ⟨place, (Option.some.inj refers).symm⟩
  have first := deref_terminates texts_chained (own_text "#/first")
  have circle := deref_terminates texts_chained (own_text "#/circle")
  have chain : ReflTransGen chained.Points (pointer "#/first") (.int 1) :=
    .tail (.single ⟨_, rfl, rfl⟩) ⟨_, rfl, rfl⟩
  exact ⟨first.1, (first.2.1 _).mpr ⟨chain, rfl⟩, circle.2.2.mp ⟨_, rfl⟩⟩

end Reconciler.Description
