import Reconciler.Proofs.Description.References

/-!
# The walk over a document

The references of a document are met in a loop over a stack of nodes: each round takes the last node from the
stack, and puts the nodes directly under it in its place.  The loop ends after one round for each node of the
document, and meets what a recursion over the document finds, from the end of the document to its beginning.
The check of the references therefore reports the one that stands last among those that lead nowhere.
-/

namespace Reconciler.Description

variable {d : Description} {node : Value} {stack parts : List Value} {met refs : List String} {n : Nat}

/-! ## The recursion over a value -/

/-- The text that a map stores under the reference key. -/
def storedReference? (fields : Fields) : Option String :=
  (fields.get? "$ref").bind Value.text?

mutual

/-- The texts that the maps in a value store under the reference key, each as often as it is stored; that of
a map stands behind those in the map. -/
def referencesIn : Value → List String
  | .scalar _ => []
  | .list items => referencesInItems items
  | .map entries => referencesInEntries entries ++ (storedReference? entries).toList

/-- The texts under the reference key in several values. -/
def referencesInItems : List Value → List String
  | [] => []
  | v :: rest => referencesIn v ++ referencesInItems rest

/-- The texts under the reference key in the values of several entries. -/
def referencesInEntries : List (Scalar × Value) → List String
  | [] => []
  | (_, v) :: rest => referencesIn v ++ referencesInEntries rest

end

theorem storedReference?_eq_some_iff {fields : Fields} {ref : String} :
    storedReference? fields = some ref ↔ fields.get? "$ref" = some (.text ref) := by
  simp [storedReference?, Option.bind_eq_some_iff, Value.text?_eq_some_iff]

theorem storedReference?_eq_none_iff {fields : Fields} :
    storedReference? fields = none ↔ ∀ ref, fields.get? "$ref" ≠ some (.text ref) := by
  simp only [Option.eq_none_iff_forall_ne_some, ne_eq, storedReference?_eq_some_iff]

theorem referencesInItems_append (before after : List Value) :
    referencesInItems (before ++ after) = referencesInItems before ++ referencesInItems after := by
  induction before with
  | nil => rfl
  | cons v rest ih => rw [List.cons_append, referencesInItems, referencesInItems, ih, List.append_assoc]

theorem referencesInItems_singleton (node : Value) : referencesInItems [node] = referencesIn node := by
  rw [referencesInItems, referencesInItems, List.append_nil]

theorem referencesInItems_values (fields : Fields) :
    referencesInItems fields.values = referencesInEntries fields := by
  induction fields with
  | nil => rfl
  | cons entry rest ih =>
      rw [referencesInEntries, ← ih]
      rfl

theorem ownReference_map (fields : Fields) :
    ownReference (.map fields) = (storedReference? fields).toList := by
  unfold ownReference
  split
  next s refers =>
    rw [storedReference?_eq_some_iff.mpr refers]
    rfl
  next other =>
    rw [storedReference?_eq_none_iff.mpr other]
    rfl

/-- In a node stand the references of the nodes under it, and then its own one. -/
theorem referencesIn_eq (node : Value) :
    referencesIn node = referencesInItems (children node) ++ ownReference node := by
  cases node with
  | scalar s => rfl
  | list items => exact (List.append_nil _).symm
  | map fields => rw [referencesIn, children, referencesInItems_values, ownReference_map]

theorem reverse_ownReference (node : Value) : (ownReference node).reverse = ownReference node := by
  unfold ownReference
  split <;> rfl

/-- The walk meets the references in the nodes of the stack from the last one to the first one. -/
theorem walkReferences_eq (stack : List Value) :
    walkReferences stack = (referencesInItems stack.reverse).reverse := by
  induction stack using walkReferences.induct with
  | case1 => rw [walkReferences, List.reverse_nil, referencesInItems, List.reverse_nil]
  | case2 node stack ih =>
      calc
        walkReferences (node :: stack)
        _ = ownReference node ++
              (referencesInItems ((children node).reverse ++ stack).reverse).reverse := by
            rw [walkReferences, ih]
        _ = (referencesInItems stack.reverse ++
              (referencesInItems (children node) ++ ownReference node)).reverse := by
            simp [referencesInItems_append, reverse_ownReference]
        _ = (referencesInItems (node :: stack).reverse).reverse := by
            rw [List.reverse_cons, referencesInItems_append, referencesInItems_singleton, referencesIn_eq]

theorem references_eq (d : Description) : d.references = (referencesIn d.document).reverse := by
  rw [references, walkReferences_eq, List.reverse_singleton, referencesInItems_singleton]

/-! ## Rounds of the loop -/

/-- What a round does with the node that it takes from the stack: the texts that it meets at the node, and the
nodes that it puts on the stack. -/
inductive Opens : Value → List String → List Value → Prop where
  /-- A map with a text under the reference key. -/
  | referring {fields : Fields} {ref : String} (stored : fields.get? "$ref" = some (.text ref)) :
      Opens (.map fields) [ref] fields.values
  /-- A map with something else under the reference key, or with nothing. -/
  | plain {fields : Fields} (other : ∀ ref, fields.get? "$ref" ≠ some (.text ref)) :
      Opens (.map fields) [] fields.values
  /-- A list. -/
  | list {items : List Value} : Opens (.list items) [] items
  /-- A node that is neither a map nor a list. -/
  | scalar {s : Scalar} : Opens (.scalar s) [] []

/-- The loop over a stack, whose top is last, goes through a number of rounds until the stack is empty, and
meets texts on the way. -/
inductive Walks : List Value → Nat → List String → Prop where
  /-- The stack is empty. -/
  | left : Walks [] 0 []
  /-- The node on the top is taken. -/
  | round {stack parts : List Value} {node : Value} {met refs : List String} {n : Nat}
      (opens : Opens node met parts) (rest : Walks (stack ++ parts) n refs) :
      Walks (stack ++ [node]) (n + 1) (met ++ refs)

/-- A round does with a node what the walk does with it. -/
theorem opens_iff : Opens node met parts ↔ met = ownReference node ∧ parts = children node := by
  constructor
  · intro opens
    cases opens with
    | referring stored =>
        rw [ownReference_map, storedReference?_eq_some_iff.mpr stored]
        exact ⟨rfl, rfl⟩
    | plain other =>
        rw [ownReference_map, storedReference?_eq_none_iff.mpr other]
        exact ⟨rfl, rfl⟩
    | list => exact ⟨rfl, rfl⟩
    | scalar => exact ⟨rfl, rfl⟩
  · rintro ⟨rfl, rfl⟩
    cases node with
    | scalar s => exact .scalar
    | list items => exact .list
    | map fields =>
        rw [ownReference_map]
        cases stored : storedReference? fields with
        | none => exact .plain (storedReference?_eq_none_iff.mp stored)
        | some ref => exact .referring (storedReference?_eq_some_iff.mp stored)

theorem size_eq_children (node : Value) : node.size = Value.sizeItems (children node) + 1 := by
  cases node with
  | scalar s => rfl
  | list items => rw [Value.size, children, Nat.add_comm]
  | map fields => rw [Value.size, children, Value.sizeItems_values, Nat.add_comm]

/-- A round takes one node from the stack. -/
theorem sizeItems_concat (stack : List Value) (node : Value) :
    Value.sizeItems (stack ++ [node]) = Value.sizeItems (stack ++ children node) + 1 := by
  rw [Value.sizeItems_append, Value.sizeItems_append, Value.sizeItems, Value.sizeItems, size_eq_children]
  rfl

theorem walkReferences_concat (stack : List Value) (node : Value) :
    walkReferences (stack ++ [node]).reverse =
      ownReference node ++ walkReferences (stack ++ children node).reverse := by
  rw [List.reverse_append, List.reverse_append, List.reverse_singleton, List.singleton_append, walkReferences]

/-- The stack with which the loop begins tells the rounds. -/
theorem Walks.course (walks : Walks stack n refs) :
    n = Value.sizeItems stack ∧ refs = walkReferences stack.reverse := by
  induction walks with
  | left => exact ⟨rfl, by rw [List.reverse_nil, walkReferences]⟩
  | round opens rest ih =>
      obtain ⟨rfl, rfl⟩ := opens_iff.mp opens
      obtain ⟨rfl, rfl⟩ := ih
      exact ⟨(sizeItems_concat _ _).symm, (walkReferences_concat _ _).symm⟩

/-- The loop comes to an end from each stack. -/
theorem walks_walkReferences (stack : List Value) :
    Walks stack.reverse (Value.sizeItems stack.reverse) (walkReferences stack) := by
  induction stack using walkReferences.induct with
  | case1 =>
      rw [walkReferences]
      exact .left
  | case2 node stack ih =>
      rw [List.reverse_append, List.reverse_reverse] at ih
      rw [List.reverse_cons, sizeItems_concat, walkReferences]
      exact .round (opens_iff.mpr ⟨rfl, rfl⟩) ih

theorem walks_iff :
    Walks stack n refs ↔ n = Value.sizeItems stack ∧ refs = walkReferences stack.reverse := by
  refine ⟨Walks.course, ?_⟩
  rintro ⟨rfl, rfl⟩
  simpa using walks_walkReferences stack.reverse

/-- The loop over a document has one course, with a round for each node of the document, and what it meets on
the way are the references that the recursion over the document finds, each of them as often. -/
theorem references_complete (d : Description) :
    (∀ n refs, Walks [d.document] n refs ↔ n = d.document.size ∧ refs = d.references) ∧
      d.references.Perm (referencesIn d.document) := by
  refine ⟨fun n refs => ?_, ?_⟩
  · rw [walks_iff, List.reverse_singleton, Value.sizeItems, Value.sizeItems, Nat.add_zero, references]
  · rw [references_eq]
    exact List.reverse_perm _

/-- A reference that stands twice counts twice; a map under the reference key is no reference, but may hold
one. -/
example :
    referencesIn (.map [
      (.text "$ref", .map [(.text "$ref", .text "#/a")]),
      (.text "items", .list
        [.list [.map [(.text "$ref", .text "#/b")]], .map [(.text "$ref", .text "#/a")]])]) =
      ["#/a", "#/b", "#/a"] := by
  rfl

/-! ## The check of the references -/

/-- The check reports the reference that stands last among those that lead nowhere. -/
theorem validateReferences_eq_error_iff {failure : Failure} :
    d.validateReferences = .error failure ↔
      ∃ before ref after, referencesIn d.document = before ++ ref :: after ∧
        d.resolve (.text ref) = .error failure ∧
          ∀ later ∈ after, ∃ node, d.resolve (.text later) = .ok node := by
  have reported :
      d.validateReferences = .error failure ↔ d.references.findSome? d.fault? = some failure := by
    rw [validateReferences_eq]
    cases d.references.findSome? d.fault? <;> simp
  rw [reported, references_eq, List.findSome?_eq_some_iff]
  constructor
  · rintro ⟨after, ref, before, split, fails, passed⟩
    refine ⟨before.reverse, ref, after.reverse, ?_, fault?_eq_some_iff.mp fails, fun later mem =>
      fault?_eq_none_iff.mp (passed later (List.mem_reverse.mp mem))⟩
    simpa using congrArg List.reverse split
  · rintro ⟨before, ref, after, split, fails, passed⟩
    exact ⟨after.reverse, ref, before.reverse, by simp [split], fault?_eq_some_iff.mpr fails,
      fun later mem => fault?_eq_none_iff.mpr (passed later (List.mem_reverse.mp mem))⟩

end Reconciler.Description
