import Reconciler.Backend.Client
import Reconciler.Proofs.Backend.Requests

/-!
# The values of path parameters

The text of a path parameter is that of the last field which has its name in the backend.  A request
passes the check when there is such a field, whatever its text is; so the parameters of an allowed request
are filled in exactly when none of these fields has an empty text.
-/

namespace Reconciler

namespace Call

variable {call : Call} {request bound : Request} {field : Scalar × Value} {fields status spec : Fields}
  {name : String}

/-! ## Texts of fields -/

/-- The last of the fields that have a name in the backend. -/
def lastNamed (call : Call) (name : String) : Fields → Option (Scalar × Value)
  | [] => none
  | field :: rest =>
    (lastNamed call name rest).or
      (if isNamed [name] (target call.renames field.1) then some field else none)

theorem isNamed_singleton_iff {key : Scalar} : isNamed [name] key = true ↔ key = .text name := by
  simp [isNamed_iff]

/-- A field with the name of a path parameter gives it its text, and other fields leave it alone. -/
theorem Bound.get?_path (done : Bound call request field bound) (declared : name ∈ call.pathNames) :
    if isNamed [name] (target call.renames field.1) then
      ∃ text, field.2.parameter = .ok text ∧ bound.path.get? name = some text
    else bound.path.get? name = request.path.get? name := by
  have other (elsewhere : ∀ own, target call.renames field.1 = .text own → own ∉ call.pathNames) :
      isNamed [name] (target call.renames field.1) = false :=
    Bool.eq_false_iff.mpr fun named => elsewhere name (isNamed_singleton_iff.mp named) declared
  cases done with
  | @path own text named _ written =>
      rw [named]
      simp only [Bindings.get?_bind]
      by_cases same : name = own
      · simp [same, isNamed, written]
      · simp [same, isNamed, Ne.symm same]
  | @query own text named not_path _ _ =>
      rw [other fun own' same => Scalar.text.inj (named.symm.trans same) ▸ not_path]
      rfl
  | body elsewhere _ =>
      rw [other fun own same => (elsewhere own same).1]
      rfl
  | leftOut elsewhere _ =>
      rw [other fun own same => (elsewhere own same).1]
      rfl

theorem get?_path_of_foldlM (declared : name ∈ call.pathNames)
    (built : fields.foldlM call.bindField request = .ok bound) :
    match call.lastNamed name fields with
    | some field => ∃ text, field.2.parameter = .ok text ∧ bound.path.get? name = some text
    | none => bound.path.get? name = request.path.get? name := by
  induction fields generalizing request with
  | nil =>
      obtain rfl := Except.ok.inj built
      rfl
  | cons field rest ih =>
      rw [List.foldlM_cons] at built
      obtain ⟨next, done, built⟩ := ok_of_bind built
      have first := (bound_of_bindField done).get?_path declared
      have last := ih built
      unfold lastNamed
      cases found : call.lastNamed name rest with
      | some later => simpa [found] using last
      | none =>
          simp only [found] at last
          split at first
          next named => simpa [named, last] using first
          next apart => simpa [apart, last] using first

/-- The fields that a request is built of: those of the desired state, with those of the observed state in
their places. -/
def fieldsOf (status spec : Fields) : Fields :=
  Fields.merge (Fields.merge [] spec) status

/-- A path parameter that has a text has that of the last field with its name. -/
theorem lastNamed_of_request (built : call.request status spec = .ok request)
    (held : name ∈ request.path.names) :
    ∃ field text, call.lastNamed name (fieldsOf status spec) = some field ∧
      field.2.parameter = .ok text ∧ request.path.get? name = some text := by
  have declared := ((mem_names_of_request built).1.mp held).1
  have last := get?_path_of_foldlM declared
    (show (fieldsOf status spec).foldlM call.bindField .empty = .ok request from built)
  cases found : call.lastNamed name (fieldsOf status spec) with
  | some field =>
      obtain ⟨text, written, bound⟩ : ∃ text, field.2.parameter = .ok text ∧
        request.path.get? name = some text := by simpa only [found] using last
      exact ⟨field, text, rfl, written, bound⟩
  | none =>
      obtain ⟨text, bound⟩ := Bindings.exists_get?_iff.mpr held
      have unbound : request.path.get? name = Request.empty.path.get? name := by
        simpa only [found] using last
      rw [unbound] at bound
      contradiction

end Call

/-! ## Filled paths -/

namespace Description

variable {d : Description} {method path : String} {pathNames queryNames : List String}
  {parameters : List Parameter} {parameter : Parameter}

/-- A request that is allowed has a text for every path parameter. -/
theorem mem_pathNames_of_allowed (declared : d.parameters method path = .ok parameters)
    (allowed : d.validateRequest method path pathNames queryNames = .ok ())
    (listed : parameter ∈ parameters) (placed : parameter.isIn "path" = true) :
    parameter.name ∈ pathNames := by
  rw [validateRequest_eq declared] at allowed
  cases found : parameters.findSome? (Parameter.fault? method path pathNames queryNames) with
  | some fault => simp [found] at allowed
  | none =>
      have passed := List.findSome?_eq_none_iff.mp found parameter listed
      by_contra absent
      simp [Parameter.fault?, placed, absent] at passed

/-- A request without a text for a path parameter is refused. -/
theorem validateRequest_of_absent (declared : d.parameters method path = .ok parameters)
    (listed : parameter ∈ parameters) (placed : parameter.isIn "path" = true)
    (absent : parameter.name ∉ pathNames) :
    ∃ fault, d.validateRequest method path pathNames queryNames = .error (.validation fault) := by
  rw [validateRequest_eq declared]
  cases found : parameters.findSome? (Parameter.fault? method path pathNames queryNames) with
  | some fault => exact ⟨fault, rfl⟩
  | none =>
      have passed := List.findSome?_eq_none_iff.mp found parameter listed
      simp [Parameter.fault?, placed, absent] at passed

end Description

namespace Client

open Call

variable {client : Client} {call : Call} {request : Request} {status spec : Fields} {method : String}

/-- Every path parameter of the operation has a text in the request, and none of the texts is empty. -/
def Fills (client : Client) (method path : String) (request : Request) : Prop :=
  ∀ parameters, client.description.parameters method path = .ok parameters →
    ∀ p ∈ parameters, p.isIn "path" = true →
      ∃ text, request.path.get? p.name = some text ∧ text ≠ ""

/-- No path parameter of the operation gets its text from a field that has none. -/
def Worded (client : Client) (method : String) (call : Call) (status spec : Fields) : Prop :=
  ∀ parameters, client.description.parameters method call.path = .ok parameters →
    ∀ p ∈ parameters, p.isIn "path" = true →
      ∀ field, call.lastNamed p.name (fieldsOf status spec) = some field → field.2.parameter ≠ .ok ""

theorem fills_iff_worded (built : call.request status spec = .ok request)
    (allowed : client.description.validateRequest method call.path request.path.names
      request.query.names = .ok ()) :
    client.Fills method call.path request ↔ client.Worded method call status spec := by
  refine forall₂_congr fun parameters declared => ?_
  refine forall₂_congr fun p listed => forall_congr' fun placed => ?_
  have held := Description.mem_pathNames_of_allowed declared allowed listed placed
  obtain ⟨field, text, last, written, bound⟩ := lastNamed_of_request built held
  rw [last, bound]
  simp [written]

end Client

end Reconciler
