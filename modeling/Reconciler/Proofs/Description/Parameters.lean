import Mathlib.Data.List.Induction
import Reconciler.Proofs.Backend.Requests

/-!
# The parameters of an operation

An operation has the parameters of its path and its own ones, one for each name and place.  They stand in
the order in which their names and places appear first, and each is the last one that was declared, by the
operation itself if it declares one.
-/

namespace Reconciler.Description

namespace Parameter

/-- The name and the place of a parameter, as texts. -/
def slot (parameter : Parameter) : String × String :=
  (parameter.name, parameter.place)

theorem sameSlot_eq (a b : Parameter) : a.sameSlot b = (a.slot == b.slot) := by
  rw [Bool.eq_iff_iff]
  simp [sameSlot, slot]

/-- The last of the parameters with a name and a place. -/
def last? (slot : String × String) (parameters : List Parameter) : Option Parameter :=
  parameters.reverse.find? (·.slot == slot)

theorem last?_append (slot : String × String) (first second : List Parameter) :
    last? slot (first ++ second) = (last? slot second).or (last? slot first) := by
  rw [last?, List.reverse_append, List.find?_append]
  rfl

/-- The parameters with later ones in the places of those with the same name and place. -/
def merged (parameters : List Parameter) : List Parameter :=
  parameters.foldl (fun merged parameter => parameter.declare merged) []

theorem merged_concat (parameters : List Parameter) (parameter : Parameter) :
    merged (parameters ++ [parameter]) = parameter.declare (merged parameters) := by
  rw [merged, List.foldl_append]
  rfl

section Declare

variable {parameters : List Parameter} {parameter other : Parameter}

theorem slots_declare (parameter : Parameter) (parameters : List Parameter) :
    (parameter.declare parameters).map slot =
      if parameter.slot ∈ parameters.map slot then parameters.map slot
      else parameters.map slot ++ [parameter.slot] := by
  induction parameters with
  | nil => rfl
  | cons first rest ih =>
      rw [declare, sameSlot_eq]
      by_cases same : first.slot = parameter.slot
      · simp [same]
      · rw [beq_eq_false_iff_ne.mpr same, if_neg Bool.false_ne_true, List.map_cons, ih, List.map_cons]
        by_cases known : parameter.slot ∈ rest.map slot
        · rw [if_pos known, if_pos (List.mem_cons_of_mem _ known)]
        · rw [if_neg known, if_neg, List.cons_append]
          simp [Ne.symm same, known]

/-- A parameter takes the place of the one with its name and place. -/
theorem mem_declare (nodup : (parameters.map slot).Nodup) :
    other ∈ parameter.declare parameters ↔
      other = parameter ∨ other ∈ parameters ∧ other.slot ≠ parameter.slot := by
  induction parameters with
  | nil => simp [declare]
  | cons first rest ih =>
      obtain ⟨fresh, nodup⟩ := List.nodup_cons.mp nodup
      rw [declare, sameSlot_eq]
      by_cases same : first.slot = parameter.slot
      · rw [beq_iff_eq.mpr same, if_pos rfl, List.mem_cons, List.mem_cons]
        have apart (mem : other ∈ rest) : other.slot ≠ parameter.slot := fun again =>
          fresh (List.mem_map.mpr ⟨other, mem, again.trans same.symm⟩)
        constructor
        · exact Or.imp_right fun mem => ⟨.inr mem, apart mem⟩
        · rintro (own | ⟨rfl | mem, away⟩)
          · exact .inl own
          · exact absurd same away
          · exact .inr mem
      · rw [beq_eq_false_iff_ne.mpr same, if_neg Bool.false_ne_true, List.mem_cons, List.mem_cons,
          ih nodup]
        constructor
        · rintro (rfl | own | ⟨mem, away⟩)
          · exact .inr ⟨.inl rfl, same⟩
          · exact .inl own
          · exact .inr ⟨.inr mem, away⟩
        · rintro (own | ⟨rfl | mem, away⟩)
          · exact .inr (.inl own)
          · exact .inl rfl
          · exact .inr (.inr ⟨mem, away⟩)

end Declare

/-- The names and places stand in the order in which they appear first. -/
theorem slots_merged (parameters : List Parameter) :
    (merged parameters).map slot = (parameters.map slot).eraseDups := by
  induction parameters using List.reverseRecOn with
  | nil => rfl
  | append_singleton parameters parameter ih =>
      rw [merged_concat, slots_declare, ih, List.map_append, List.eraseDups_append, List.removeAll,
        List.map_singleton, List.filter_singleton, List.elem_eq_mem]
      simp only [List.mem_eraseDups]
      split <;> simp [*, List.eraseDups_cons]

theorem nodup_merged (parameters : List Parameter) : ((merged parameters).map slot).Nodup := by
  induction parameters using List.reverseRecOn with
  | nil => exact List.nodup_nil
  | append_singleton parameters parameter ih =>
      rw [merged_concat, slots_declare]
      split
      · exact ih
      next fresh => exact List.nodup_append.mpr ⟨ih, by simp, by simpa using fresh⟩

/-- Each parameter is the last one that was declared for its name and place. -/
theorem mem_merged {parameters : List Parameter} {parameter : Parameter} :
    parameter ∈ merged parameters ↔ last? parameter.slot parameters = some parameter := by
  induction parameters using List.reverseRecOn with
  | nil => simp [merged, last?]
  | append_singleton parameters latest ih =>
      rw [merged_concat, mem_declare (nodup_merged parameters), ih, last?_append]
      by_cases same : latest.slot = parameter.slot
      · simp [last?, same, eq_comm]
      · have other : parameter ≠ latest := fun own => same (own ▸ rfl)
        simp [last?, same, other, Ne.symm same]

end Parameter

variable {d : Description} {method path : String}

/-- The parameters that nodes declare; a node that leads to no map with a name declares none. -/
def declarations (d : Description) (nodes : List Value) : List Parameter :=
  nodes.filterMap fun node => (d.deref node).toOption.bind Parameter.ofValue?

theorem filterMap_eq_declarations {nodes targets : List Value}
    (led : List.Forall₂ (fun node target => d.deref node = .ok target) nodes targets) :
    targets.filterMap Parameter.ofValue? = d.declarations nodes := by
  induction led with
  | nil => rfl
  | cons leads _ ih =>
      rw [declarations, List.filterMap_cons, List.filterMap_cons, leads, ih]
      rfl

theorem exists_mapM_deref {nodes : List Value}
    (resolved : ∀ node ∈ nodes, ∃ target, d.deref node = .ok target) :
    ∃ targets, nodes.mapM d.deref = .ok targets ∧
      targets.filterMap Parameter.ofValue? = d.declarations nodes := by
  have each : ∀ node ∈ nodes, ∃ target, d.deref node = .ok target ∧ d.deref node = .ok target :=
    fun node mem => (resolved node mem).imp fun _ leads => ⟨leads, leads⟩
  obtain ⟨targets, found, led⟩ := exists_mapM each
  exact ⟨targets, found, filterMap_eq_declarations led⟩

theorem declarations_append (first second : List Value) :
    d.declarations (first ++ second) = d.declarations first ++ d.declarations second :=
  List.filterMap_append

theorem isIn_iff {parameter : Parameter} {place : String} :
    parameter.isIn place = true ↔ parameter.declaration.get? "in" = some (.text place) := by
  rw [Parameter.isIn, Value.equal_text_iff]
  cases parameter.declaration.get? "in" <;> simp

/-- The parameters of a declared operation, whose entries lead to something: each name and place has one
parameter, which is the last one that the operation declares, or else the last one of its path; they stand
in the order in which their names and places appear first, in the path and then in the operation; and the
names of the parameters of a place are those that are declared for it. -/
theorem parameters_merged {item operation : Fields} {shared own : List Value}
    (found : d.pathItem method path = .ok item) (declared : d.operation method path = .ok operation)
    (shared_listed : listed item "parameters" = .ok shared)
    (own_listed : listed operation "parameters" = .ok own)
    (resolved : ∀ node ∈ shared ++ own, ∃ target, d.deref node = .ok target) :
    ∃ parameters, d.parameters method path = .ok parameters ∧
      (parameters.map Parameter.slot).Nodup ∧
      parameters.map Parameter.slot =
        ((d.declarations shared ++ d.declarations own).map Parameter.slot).eraseDups ∧
      (∀ parameter, parameter ∈ parameters ↔
        (Parameter.last? parameter.slot (d.declarations own)).or
          (Parameter.last? parameter.slot (d.declarations shared)) = some parameter) ∧
      ∃ pathNames queryNames, d.parameterNames method path = .ok (pathNames, queryNames) ∧
        (∀ name, name ∈ pathNames ↔ ∃ parameter ∈ parameters,
          parameter.declaration.get? "in" = some (.text "path") ∧ parameter.name = name) ∧
        ∀ name, name ∈ queryNames ↔ ∃ parameter ∈ parameters,
          parameter.declaration.get? "in" = some (.text "query") ∧ parameter.name = name := by
  obtain ⟨targets, led, declares⟩ := exists_mapM_deref resolved
  rw [declarations_append] at declares
  have built : d.parameters method path =
      .ok (Parameter.merged (d.declarations shared ++ d.declarations own)) := by
    simp only [parameters, found, declared, shared_listed, own_listed, led, bind, Except.bind]
    exact congrArg (fun declared => Except.ok (Parameter.merged declared)) declares
  refine ⟨_, built, Parameter.nodup_merged _, Parameter.slots_merged _, fun parameter => ?_, ?_⟩
  · rw [Parameter.mem_merged, Parameter.last?_append]
  · refine ⟨_, _, by rw [parameterNames, built]; rfl, fun name => ?_, fun name => ?_⟩
    · simp only [mem_namesIn, isIn_iff]
    · simp only [mem_namesIn, isIn_iff]

/-- The declaration of a parameter of a place. -/
def declaredIn (place name : String) : Fields :=
  [(.text "name", .text name), (.text "in", .text place)]

/-- The parameters of a path: one of its own, one that is declared elsewhere, and an entry that is none. -/
def sharedNodes : List Value :=
  [.map (declaredIn "path" "id"), .map [(.text "$ref", .text "#/page")], .text "none"]

/-- The parameters of an operation, which declares one again. -/
def ownNodes : List Value :=
  [.map (declaredIn "query" "id"), .map (Call.requiredIn "query" "page")]

/-- The declaration of the operation. -/
def listingOperation : Fields :=
  [(.text "parameters", .list ownNodes)]

/-- The declaration of its path. -/
def listingItem : Fields :=
  [(.text "parameters", .list sharedNodes), (.text "get", .map listingOperation)]

/-- A description with the operation. -/
def listing : Description :=
  ⟨.map [(.text "paths", .map [(.text "/repos", .map listingItem)]),
    (.text "page", .map (declaredIn "query" "page"))], ""⟩

/-- The operation's own declaration of the page stands in the place of the other one. -/
theorem parameters_merged_listing :
    ∃ parameters, listing.parameters "GET" "/repos" = .ok parameters ∧
      parameters.map Parameter.slot = [("id", "path"), ("page", "query"), ("id", "query")] ∧
        ⟨"page", "query", Call.requiredIn "query" "page"⟩ ∈ parameters ∧
          ⟨"page", "query", declaredIn "query" "page"⟩ ∉ parameters := by
  have resolved : ∀ node ∈ sharedNodes ++ ownNodes, ∃ target, listing.deref node = .ok target := by
    simp only [sharedNodes, ownNodes, List.cons_append, List.nil_append, List.forall_mem_cons]
    exact ⟨⟨_, rfl⟩, ⟨_, rfl⟩, ⟨_, rfl⟩, ⟨_, rfl⟩, ⟨_, rfl⟩, by simp⟩
  have found : listing.pathItem "GET" "/repos" = .ok listingItem := rfl
  have declared : listing.operation "GET" "/repos" = .ok listingOperation := rfl
  obtain ⟨parameters, built, -, slots, mem_iff, -⟩ := parameters_merged found declared rfl rfl resolved
  refine ⟨parameters, built, slots.trans (by decide), (mem_iff _).mpr rfl, fun member => ?_⟩
  have same : Call.requiredIn "query" "page" = declaredIn "query" "page" :=
    congrArg Parameter.declaration (Option.some.inj ((mem_iff _).mp member))
  exact absurd (congrArg List.length same) (by decide)

end Reconciler.Description
