import Mathlib.Data.List.Perm.Subperm
import Mathlib.Logic.Relation
import Reconciler.Description.Basic
import Reconciler.Proofs.Value.Access

/-!
# References of a description

The walk over a document meets the reference of each node, so that a description whose references were
checked has a node for each of them.  A chain of references from node to node then has no way to end but
at a node that is no reference; a chain without an end comes back to a node that it has left, and is
reported with the reference of that node.
-/

namespace Reconciler.Description

open Relation

variable {d : Description} {top node next : Value} {ref : String}

/-! ## Nodes -/

/-- The node is the top one, or lies below it. -/
def Within (top node : Value) : Prop :=
  ReflTransGen (fun outer inner => inner ∈ children outer) top node

/-- The node belongs to the document. -/
def IsNode (d : Description) (node : Value) : Prop :=
  Within d.document node

theorem within_iff : Within top node ↔ node = top ∨ ∃ child ∈ children top, Within child node := by
  unfold Within
  rw [ReflTransGen.cases_head_iff, eq_comm]

/-- What holds at the top, and at the children of each node at which it holds, holds of all nodes. -/
theorem Within.of_closed (holds : Value → Prop) (start : holds top)
    (closed : ∀ node, holds node → ∀ child ∈ children node, holds child) (within : Within top node) :
    holds node := by
  induction within with
  | refl => exact start
  | tail _ child ih => exact closed _ ih _ child

theorem mem_children_of_find? {fields : Fields} {key : Scalar} {value : Value}
    (found : fields.find? key = some value) : value ∈ children (.map fields) := by
  induction fields with
  | nil => contradiction
  | cons entry rest ih =>
      rw [Fields.find?] at found
      split at found
      · obtain rfl := Option.some.inj found
        exact List.mem_cons_self
      · exact List.mem_cons_of_mem _ (ih found)

theorem mem_children_of_step {key : String} (found : step node key = .ok (some next)) :
    next ∈ children node := by
  cases node with
  | scalar s => simp [step] at found
  | map fields => exact mem_children_of_find? (Except.ok.inj found)
  | list items =>
      unfold step at found
      dsimp only at found
      split at found
      · split at found
        · exact List.mem_of_getElem? (Except.ok.inj found)
        · contradiction
      · simp at found

theorem within_of_followKeys {keys : List String} (found : followKeys ref top keys = .ok node) :
    Within top node := by
  induction keys generalizing top with
  | nil =>
      obtain rfl := Except.ok.inj found
      exact .refl
  | cons key keys ih =>
      rw [followKeys] at found
      split at found
      · contradiction
      · contradiction
      next inner stepped => exact .head (mem_children_of_step stepped) (ih found)

/-- A reference leads to a node of the document. -/
theorem isNode_of_resolve {ref : Value} (found : d.resolve ref = .ok node) : d.IsNode node := by
  unfold resolve at found
  split at found
  · split at found
    · split at found
      · obtain rfl := Except.ok.inj found
        exact .refl
      · exact within_of_followKeys found
    · contradiction
  · contradiction

/-! ## The walk -/

theorem mem_ownReference : ref ∈ ownReference node ↔ reference? node = some (.text ref) := by
  unfold ownReference
  split
  next s found => simp [found, eq_comm]
  next other =>
    refine ⟨fun mem => absurd mem List.not_mem_nil, fun found => absurd found (other ref)⟩

/-- The walk meets the references of all nodes within the nodes of the stack. -/
theorem mem_walkReferences {stack : List Value} :
    ref ∈ walkReferences stack ↔
      ∃ top ∈ stack, ∃ node, Within top node ∧ reference? node = some (.text ref) := by
  induction stack using walkReferences.induct with
  | case1 => simp [walkReferences]
  | case2 top stack ih =>
      rw [walkReferences, List.mem_append, ih, mem_ownReference]
      constructor
      · rintro (own | ⟨child, mem, node, within, found⟩)
        · exact ⟨top, List.mem_cons_self, top, .refl, own⟩
        · rw [List.mem_append, List.mem_reverse] at mem
          obtain mem | mem := mem
          · exact ⟨top, List.mem_cons_self, node, .head mem within, found⟩
          · exact ⟨child, List.mem_cons_of_mem _ mem, node, within, found⟩
      · rintro ⟨other, mem, node, within, found⟩
        obtain rfl | mem := List.mem_cons.mp mem
        · obtain rfl | ⟨child, mem, within⟩ := within_iff.mp within
          · exact .inl found
          · exact .inr ⟨child, List.mem_append_left _ (List.mem_reverse.mpr mem), node, within, found⟩
        · exact .inr ⟨other, List.mem_append_right _ mem, node, within, found⟩

theorem mem_references :
    ref ∈ d.references ↔ ∃ node, d.IsNode node ∧ reference? node = some (.text ref) := by
  rw [references, mem_walkReferences]
  simp only [List.mem_singleton, exists_eq_left]
  rfl

/-! ## The check of the references -/

/-- The failure of looking for the node that a reference points to. -/
def fault? (d : Description) (ref : String) : Option Failure :=
  match d.resolve (.text ref) with
  | .ok _ => none
  | .error failure => some failure

theorem fault?_eq_some_iff {failure : Failure} :
    d.fault? ref = some failure ↔ d.resolve (.text ref) = .error failure := by
  unfold fault?
  cases d.resolve (.text ref) <;> simp

theorem fault?_eq_none_iff : d.fault? ref = none ↔ ∃ node, d.resolve (.text ref) = .ok node := by
  unfold fault?
  cases d.resolve (.text ref) <;> simp

theorem validateReferences_eq (d : Description) :
    d.validateReferences =
      match d.references.findSome? d.fault? with
      | some failure => .error failure
      | none => .ok () := by
  rw [validateReferences, List.forM_eq_forM]
  induction d.references with
  | nil => rfl
  | cons ref refs ih =>
      rw [List.forM_cons, List.findSome?_cons, fault?]
      cases d.resolve (.text ref) with
      | error failure => rfl
      | ok node => exact ih

/-- The check of the references succeeds exactly where each of them leads to a node. -/
theorem validateReferences_iff :
    d.validateReferences = .ok () ↔ ∀ ref ∈ d.references, ∃ node, d.resolve (.text ref) = .ok node := by
  have passed : d.validateReferences = .ok () ↔ d.references.findSome? d.fault? = none := by
    rw [validateReferences_eq]
    cases d.references.findSome? d.fault? <;> simp
  simp only [passed, List.findSome?_eq_none_iff, fault?_eq_none_iff]

/-! ## Chains of references -/

/-- The node is a reference to the next one. -/
def Points (d : Description) (node next : Value) : Prop :=
  ∃ ref, reference? node = some ref ∧ d.resolve ref = .ok next

theorem IsNode.of_chain (own : d.IsNode node) (chain : ReflTransGen d.Points node next) :
    d.IsNode next := by
  cases chain with
  | refl => exact own
  | tail _ points =>
      obtain ⟨ref, _, found⟩ := points
      exact isNode_of_resolve found

/-- The outcomes at the end of a chain of references. -/
inductive Ends (d : Description) (node : Value) : Except Failure Value → Prop where
  /-- The chain ends at a node that is no reference. -/
  | reached {final : Value} (chain : ReflTransGen d.Points node final)
      (concrete : reference? final = none) : Ends d node (.ok final)
  /-- The chain comes back to a node that it has left. -/
  | circular {inside : Value} {ref : String} (chain : ReflTransGen d.Points node inside)
      (circle : TransGen d.Points inside inside) (refers : reference? inside = some (.text ref)) :
      Ends d node (.error (.validation (.circularReference ref)))
  /-- A reference on the chain leads nowhere. -/
  | dangling {last ref : Value} {failure : Failure} (chain : ReflTransGen d.Points node last)
      (refers : reference? last = some ref) (fails : d.resolve ref = .error failure) :
      Ends d node (.error failure)

/-- The search ends as the chain does, as long as the bound exceeds the number of known references that
were not seen. -/
theorem ends_derefFrom {start : Value} {known : List String}
    (texts : ∀ node, ReflTransGen d.Points start node → ∀ ref, reference? node = some ref →
      ∃ s ∈ known, ref = .text s)
    (seen : List String) {bound : Nat} (chain : ReflTransGen d.Points start node)
    (distinct : seen.Nodup) (listed : seen ⊆ known)
    (earlier : ∀ s ∈ seen, ∃ before, reference? before = some (.text s) ∧ TransGen d.Points before node)
    (enough : known.length < seen.length + bound) :
    Ends d start (derefFrom d (seen.map .text) node bound) := by
  induction bound generalizing node seen with
  | zero =>
      -- The seen references are different ones among the known, so that the bound is never used up.
      have few : seen.length ≤ known.length := (List.subperm_of_subset distinct listed).length_le
      omega
  | succ bound ih =>
      rw [derefFrom]
      cases refers : reference? node with
      | none => exact .reached chain refers
      | some ref =>
          obtain ⟨s, s_known, rfl⟩ := texts node chain ref refers
          have any_iff : ((seen.map Value.text).any (·.equal (.text s))) = true ↔ s ∈ seen := by
            simp [Value.equal_text_iff]
          dsimp only
          split
          next again =>
            -- The node that had the reference before leads where this node leads, and from there to this one.
            obtain ⟨before, refers_before, behind⟩ := earlier s (any_iff.mp again)
            obtain ⟨after, ⟨ref, refers_ref, found⟩, back⟩ := TransGen.head'_iff.mp behind
            obtain rfl := Option.some.inj (refers_before.symm.trans refers_ref)
            exact .circular chain (TransGen.head' ⟨_, refers, found⟩ back) refers
          next fresh =>
            cases found : d.resolve (.text s) with
            | error failure => exact .dangling chain refers found
            | ok next =>
                have points : d.Points node next := ⟨_, refers, found⟩
                refine ih (s :: seen) (chain.tail points)
                  (List.nodup_cons.mpr ⟨mt any_iff.mpr fresh, distinct⟩)
                  (List.cons_subset.mpr ⟨s_known, listed⟩) ?_ (by rw [List.length_cons]; omega)
                rw [List.forall_mem_cons]
                refine ⟨⟨node, refers, .single points⟩, fun other mem => ?_⟩
                obtain ⟨before, refers_before, behind⟩ := earlier other mem
                exact ⟨before, refers_before, behind.tail points⟩

/-- The search for the end of a chain in the document ends as the chain does. -/
theorem IsNode.ends_deref
    (texts : ∀ node, d.IsNode node → ∀ ref, reference? node = some ref → ∃ s, ref = .text s)
    (own : d.IsNode node) : Ends d node (d.deref node) := by
  unfold deref
  cases refers : reference? node with
  | none => exact .reached .refl refers
  | some ref =>
      have listed : ∀ last, ReflTransGen d.Points node last → ∀ ref, reference? last = some ref →
          ∃ s ∈ d.references, ref = .text s := by
        intro last chain ref refers_last
        have own_last := own.of_chain chain
        obtain ⟨s, rfl⟩ := texts last own_last ref refers_last
        exact ⟨s, mem_references.mpr ⟨last, own_last, refers_last⟩, rfl⟩
      exact ends_derefFrom listed [] .refl List.nodup_nil (List.nil_subset _) (by simp) (by simp)

/-- In a document whose references are texts that were checked, the search that starts at a node of the
document ends at a node of the document that is no reference, or reports the chain as circular, and then
the chain comes back to a node with the reported reference. -/
theorem deref_of_validateReferences
    (texts : ∀ node, d.IsNode node → ∀ ref, reference? node = some ref → ∃ s, ref = .text s)
    (valid : d.validateReferences = .ok ()) (own : d.IsNode node) :
    (∃ final, d.deref node = .ok final ∧ d.IsNode final ∧ reference? final = none ∧
      ReflTransGen d.Points node final) ∨
      ∃ ref inside, d.deref node = .error (.validation (.circularReference ref)) ∧
        reference? inside = some (.text ref) ∧ ReflTransGen d.Points node inside ∧
          TransGen d.Points inside inside := by
  have ends := own.ends_deref texts
  generalize d.deref node = outcome at ends ⊢
  cases ends with
  | reached chain concrete => exact .inl ⟨_, rfl, own.of_chain chain, concrete, chain⟩
  | circular chain circle refers => exact .inr ⟨_, _, rfl, refers, chain, circle⟩
  | @dangling last ref failure chain refers fails =>
      -- The walk met the reference, and the check of the references resolved it.
      have own_last := own.of_chain chain
      obtain ⟨s, rfl⟩ := texts last own_last ref refers
      obtain ⟨next, found⟩ :=
        validateReferences_iff.mp valid s (mem_references.mpr ⟨last, own_last, refers⟩)
      rw [fails] at found
      contradiction

/-- A reference to a place. -/
def pointer (place : String) : Value :=
  .map [(.text "$ref", .text place)]

/-- A document with a reference to a number, and a reference to itself. -/
def chained : Description :=
  ⟨.map [(.text "first", pointer "#/number"), (.text "circle", pointer "#/circle"),
    (.text "number", .int 1)], ""⟩

theorem isNode_chained (own : chained.IsNode node) :
    node ∈ [chained.document, pointer "#/number", pointer "#/circle", .int 1, .text "#/number",
      .text "#/circle"] := by
  refine Within.of_closed (· ∈ _) List.mem_cons_self ?_ own
  simp [chained, pointer, children, Fields.values]

theorem texts_chained : ∀ node, chained.IsNode node → ∀ ref, reference? node = some ref →
    ∃ s, ref = .text s := by
  intro node own ref refers
  have mem := isNode_chained own
  simp only [List.mem_cons, List.not_mem_nil, or_false] at mem
  obtain rfl | rfl | rfl | rfl | rfl | rfl := mem
  · cases refers
  · exact ⟨_, (Option.some.inj refers).symm⟩
  · exact ⟨_, (Option.some.inj refers).symm⟩
  all_goals cases refers

theorem validateReferences_chained : chained.validateReferences = .ok () := by
  have listed : chained.references = ["#/circle", "#/number"] := by
    simp [chained, pointer, references, walkReferences, ownReference, reference?, Value.get?,
      Value.fields?, Fields.get?, Fields.find?, Scalar.sameKey, Scalar.equalBy, children, Fields.values]
  rw [validateReferences_iff, listed]
  simp only [List.forall_mem_cons]
  exact ⟨⟨_, rfl⟩, ⟨_, rfl⟩, by simp⟩

/-- The chains from the reference to the number and from the reference to itself. -/
theorem deref_of_validateReferences_chained :
    let settled (node : Value) : Prop :=
      (∃ final, chained.deref node = .ok final ∧ chained.IsNode final ∧ reference? final = none ∧
        ReflTransGen chained.Points node final) ∨
        ∃ ref inside, chained.deref node = .error (.validation (.circularReference ref)) ∧
          reference? inside = some (.text ref) ∧ ReflTransGen chained.Points node inside ∧
            TransGen chained.Points inside inside
    settled (pointer "#/number") ∧ settled (pointer "#/circle") := by
  have first : chained.IsNode (pointer "#/number") :=
    .single (by simp [chained, children, Fields.values])
  have circle : chained.IsNode (pointer "#/circle") :=
    .single (by simp [chained, children, Fields.values])
  exact ⟨deref_of_validateReferences texts_chained validateReferences_chained first,
    deref_of_validateReferences texts_chained validateReferences_chained circle⟩

end Reconciler.Description
