import Reconciler.Backend.Call
import Reconciler.Document.Metadata
import Reconciler.Proofs.Computation

/-!
# Verdicts

Two failures are verdicts on a resource: that no verb is declared for what is to be done with it, and that
it differs from the desired state.  Each is passed in one place only.  An outcome is impartial when it is
not such a failure, and reading values, documents and descriptions is impartial throughout.
-/

namespace Reconciler

/-- The failure says that no verb is declared, or that the external resource differs. -/
def Failure.isVerdict : Failure → Bool
  | .unresolvedAction .. | .drift _ => true
  | _ => false

/-- An outcome is no verdict. -/
def Impartial {α : Type} (outcome : Except Failure α) : Prop :=
  ∀ failure, outcome = .error failure → failure.isVerdict = false

section Outcomes

variable {α β : Type}

@[simp]
theorem impartial_ok (a : α) : Impartial (.ok a) := by
  intro failure failed
  contradiction

theorem impartial_error {failure : Failure} (plain : failure.isVerdict = false) :
    Impartial (.error failure : Except Failure α) := by
  intro other same
  rw [← Except.error.inj same]
  exact plain

theorem impartial_bind {outcome : Except Failure α} {next : α → Except Failure β}
    (first : Impartial outcome) (rest : ∀ a, Impartial (next a)) :
    Impartial (outcome >>= next) := by
  cases outcome with
  | ok a => exact rest a
  | error failure => exact impartial_error (first failure rfl)

theorem impartial_mapM {items : List α} {f : α → Except Failure β}
    (each : ∀ item, Impartial (f item)) : Impartial (items.mapM f) := by
  induction items with
  | nil => exact impartial_ok _
  | cons item rest ih =>
      rw [List.mapM_cons]
      exact impartial_bind (each item) fun _ => impartial_bind ih fun _ => impartial_ok _

theorem impartial_foldlM {items : List β} {f : α → β → Except Failure α}
    (each : ∀ a item, Impartial (f a item)) (start : α) : Impartial (items.foldlM f start) := by
  induction items generalizing start with
  | nil => exact impartial_ok _
  | cons item rest ih =>
      rw [List.foldlM_cons]
      exact impartial_bind (each start item) ih

end Outcomes

/-! ## Values and documents -/

namespace Value

variable (v : Value)

theorem impartial_member (name : String) : Impartial (v.member name) := by
  cases v <;> first | exact impartial_ok _ | exact impartial_error rfl

theorem impartial_keys : Impartial v.keys := by
  cases v <;> first | exact impartial_ok _ | exact impartial_error rfl

theorem impartial_elements : Impartial v.elements := by
  cases v with
  | scalar s => cases s <;> first | exact impartial_ok _ | exact impartial_error rfl
  | list items => exact impartial_ok _
  | map entries => exact impartial_ok _

theorem impartial_parameter : Impartial v.parameter := by
  unfold parameter
  split
  · exact impartial_ok _
  · exact impartial_ok _
  · exact impartial_ok _
  · split
    · exact impartial_ok _
    · exact impartial_error rfl
    · exact impartial_error rfl
  · exact impartial_ok _

end Value

namespace Document

variable (doc : Document)

theorem impartial_field (path : List String) : Impartial (doc.field path) := by
  unfold field
  split
  · exact impartial_ok _
  · exact impartial_error rfl
  · exact impartial_error rfl

theorem impartial_topLevelFields (name : String) : Impartial (doc.topLevelFields name) := by
  have map : Impartial (doc.map [name]) := by
    refine impartial_bind (doc.impartial_field _) fun value => ?_
    split
    · exact impartial_ok _
    · exact impartial_error rfl
  unfold topLevelFields
  split
  · exact impartial_ok _
  · exact map

theorem impartial_hasIdentifier (identifiers : List String) :
    Impartial (doc.hasIdentifier identifiers) :=
  impartial_bind (doc.impartial_topLevelFields _) fun _ => impartial_ok _

theorem impartial_withField (path : List String) (value : Value) :
    Impartial (doc.withField path value) := by
  unfold withField
  split
  · exact impartial_error rfl
  · split
    · exact impartial_ok _
    · exact impartial_error rfl
    · split <;> exact impartial_error rfl
    · exact impartial_error rfl

theorem impartial_metadataMember (name : String) : Impartial (doc.metadataMember name) := by
  unfold metadataMember
  refine impartial_bind ?_ fun metadata => metadata.impartial_member name
  cases doc.object <;> first | exact impartial_ok _ | exact impartial_error rfl

theorem impartial_groupVersionKind : Impartial doc.groupVersionKind := by
  unfold groupVersionKind
  split
  · exact impartial_ok _
  · exact impartial_error rfl

end Document

/-! ## Descriptions -/

namespace Description

variable (d : Description)

theorem impartial_followKeys (ref : String) (node : Value) (keys : List String) :
    Impartial (followKeys ref node keys) := by
  induction keys generalizing node with
  | nil => exact impartial_ok _
  | cons key rest ih =>
      have first : Impartial (step node key) := by
        unfold step
        split
        · exact impartial_ok _
        · split
          · split
            · exact impartial_ok _
            · exact impartial_error rfl
          · exact impartial_ok _
        · exact impartial_ok _
      unfold followKeys
      split
      next failure failed => exact impartial_error (first failure failed)
      · exact impartial_error rfl
      · exact ih _

theorem impartial_resolve (ref : Value) : Impartial (d.resolve ref) := by
  unfold resolve
  split
  · split
    · split
      · exact impartial_ok _
      · exact impartial_followKeys _ _ _
    · exact impartial_error rfl
  · exact impartial_error rfl

theorem impartial_derefFrom (seen : List Value) (node : Value) (bound : Nat) :
    Impartial (d.derefFrom seen node bound) := by
  induction bound generalizing seen node with
  | zero => exact impartial_error rfl
  | succ bound ih =>
      unfold derefFrom
      split
      · exact impartial_ok _
      · split
        · exact impartial_error rfl
        · exact impartial_error rfl
        · split
          · exact impartial_error rfl
          · split
            next failure failed => exact impartial_error (d.impartial_resolve _ failure failed)
            · exact ih _ _

theorem impartial_deref (node : Value) : Impartial (d.deref node) := by
  unfold deref
  split
  · exact impartial_ok _
  · exact d.impartial_derefFrom _ _ _

theorem impartial_listed (declaration : Fields) (name : String) :
    Impartial (listed declaration name) :=
  Value.impartial_elements _

variable (method path : String)

theorem impartial_pathItem : Impartial (d.pathItem method path) := by
  have paths : Impartial d.paths :=
    impartial_bind (d.document.impartial_member _) fun _ => impartial_ok _
  refine impartial_bind paths fun paths => impartial_bind (paths.impartial_member path) fun item => ?_
  refine impartial_bind (d.impartial_deref item) fun node => ?_
  split
  · exact impartial_ok _
  · exact impartial_error rfl

theorem impartial_operation : Impartial (d.operation method path) := by
  refine impartial_bind (d.impartial_pathItem method path) fun item => ?_
  split
  · exact impartial_ok _
  · exact impartial_error rfl

theorem impartial_parameterNames : Impartial (d.parameterNames method path) := by
  refine impartial_bind ?_ fun parameters => impartial_ok _
  refine impartial_bind (d.impartial_pathItem method path) fun item => ?_
  refine impartial_bind (d.impartial_operation method path) fun operation => ?_
  refine impartial_bind (impartial_listed item _) fun shared => ?_
  refine impartial_bind (impartial_listed operation _) fun own => ?_
  exact impartial_bind (impartial_mapM d.impartial_deref) fun _ => impartial_ok _

theorem impartial_properties (schema : Value) (bound : Nat) :
    Impartial (d.properties schema bound) := by
  induction bound generalizing schema with
  | zero => exact impartial_ok _
  | succ bound ih =>
      refine impartial_bind (d.impartial_deref schema) fun node => ?_
      split
      · refine impartial_bind (Value.impartial_keys _) fun own => ?_
        refine impartial_bind (impartial_listed _ _) fun parts => ?_
        exact impartial_bind (impartial_mapM ih) fun _ => impartial_ok _
      · exact impartial_ok _

theorem impartial_bodyFields : Impartial (d.bodyFields method path) := by
  refine impartial_bind (d.impartial_operation method path) fun operation => ?_
  refine impartial_bind (d.impartial_deref _) fun body => ?_
  split
  · refine impartial_bind (Value.impartial_member _ _) fun media => ?_
    split
    · exact d.impartial_properties _ _
    · exact impartial_ok _
  · exact impartial_ok _

end Description

/-! ## Calls -/

namespace Call

variable (description : Description) (descriptor : Descriptor) (action : Action)

/-- A declared verb makes a call, or fails for what the description says about it. -/
theorem impartial_ofVerb (verb : Verb) : Impartial (ofVerb description descriptor action verb) := by
  have kind (method : String) : Impartial (CallKind.ofAction action method) := by
    unfold CallKind.ofAction
    split
    · exact impartial_ok _
    · exact impartial_ok _
    · split
      · exact impartial_ok _
      · exact impartial_error rfl
  refine impartial_bind (kind _) fun kind => ?_
  refine impartial_bind (description.impartial_parameterNames _ _) fun names => ?_
  dsimp only
  split
  · exact impartial_bind (description.impartial_bodyFields _ _) fun _ => impartial_ok _
  · exact impartial_ok _

theorem impartial_request (call : Call) (status spec : Fields) :
    Impartial (call.request status spec) := by
  refine impartial_foldlM (fun request field => ?_) _
  unfold bindField
  dsimp only
  split
  · exact impartial_bind field.2.impartial_parameter fun _ => impartial_ok _
  · split
    · exact impartial_bind field.2.impartial_parameter fun _ => impartial_ok _
    · split <;> exact impartial_ok _

end Call

end Reconciler
