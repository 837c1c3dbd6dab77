import Reconciler.Backend.Call
import Reconciler.Proofs.Backend.Bindings
import Reconciler.Proofs.Computation
import Reconciler.Proofs.Value.Merge

/-!
# Requests and what they have to hold

The names that the fields of a resource have in the backend decide which parameters of a call get a value.
Binding looks at these names alone, so that the check of a built request fails exactly where a name that
is needed is no name of a field.
-/

namespace Reconciler

/-- The value is not a number without an end or without a value. -/
def Value.IsFinite : Value → Prop
  | .float x => ∃ value, Decimal.read x = .finite value
  | _ => True

/-- Every value has a text form in a request, except for an infinite or undefined number. -/
theorem Value.exists_parameter_iff {value : Value} :
    (∃ text, value.parameter = .ok text) ↔ value.IsFinite := by
  cases value with
  | list items => simp [parameter, IsFinite]
  | map entries => simp [parameter, IsFinite]
  | scalar s =>
      cases s with
      | float x =>
          unfold parameter IsFinite
          cases reading : Decimal.read x <;> simp [reading]
      | _ => simp [parameter, IsFinite]

namespace Call

variable {call : Call} {request bound : Request} {field : Scalar × Value} {fields status spec : Fields}
  {name : String}

/-! ## Binding -/

theorem isNamed_iff {names : List String} {key : Scalar} :
    isNamed names key = true ↔ ∃ name ∈ names, key = .text name := by
  cases key <;> simp [isNamed]

/-- A request into which a field was bound. -/
inductive Bound (call : Call) (request : Request) (field : Scalar × Value) : Request → Prop where
  /-- The field is a path parameter. -/
  | path {name text : String} (named : target call.renames field.1 = .text name)
      (declared : name ∈ call.pathNames) (written : field.2.parameter = .ok text) :
      Bound call request field { request with path := Bindings.bind name text request.path }
  /-- The field is a query parameter. -/
  | query {name text : String} (named : target call.renames field.1 = .text name)
      (other : name ∉ call.pathNames) (declared : name ∈ call.queryNames)
      (written : field.2.parameter = .ok text) :
      Bound call request field { request with query := Bindings.bind name text request.query }
  /-- The field is a field of the body. -/
  | body (other : ∀ name, target call.renames field.1 = .text name →
        name ∉ call.pathNames ∧ name ∉ call.queryNames)
      (declared : call.bodyNames.any (·.sameKey (target call.renames field.1)) = true) :
      Bound call request field
        { request with body := Fields.put (target call.renames field.1) field.2 request.body }
  /-- The call has no place for the field. -/
  | leftOut (other : ∀ name, target call.renames field.1 = .text name →
        name ∉ call.pathNames ∧ name ∉ call.queryNames)
      (undeclared : call.bodyNames.any (·.sameKey (target call.renames field.1)) = false) :
      Bound call request field request

theorem bound_of_bindField (done : call.bindField request field = .ok bound) :
    Bound call request field bound := by
  unfold bindField at done
  dsimp only at done
  split at done
  next in_path =>
    obtain ⟨name, declared, named⟩ := isNamed_iff.mp in_path
    obtain ⟨text, written, done⟩ := ok_of_bind done
    obtain rfl := Except.ok.inj done
    rw [named]
    exact .path named declared written
  next not_in_path =>
    have not_path : ∀ name, target call.renames field.1 = .text name → name ∉ call.pathNames :=
      fun name named declared => not_in_path (isNamed_iff.mpr ⟨name, declared, named⟩)
    split at done
    next in_query =>
      obtain ⟨name, declared, named⟩ := isNamed_iff.mp in_query
      obtain ⟨text, written, done⟩ := ok_of_bind done
      obtain rfl := Except.ok.inj done
      rw [named]
      exact .query named (not_path name named) declared written
    next not_in_query =>
      have other : ∀ name, target call.renames field.1 = .text name →
          name ∉ call.pathNames ∧ name ∉ call.queryNames := fun name named =>
        ⟨not_path name named, fun declared => not_in_query (isNamed_iff.mpr ⟨name, declared, named⟩)⟩
      split at done
      next in_body =>
        obtain rfl := Except.ok.inj done
        exact .body other in_body
      next not_in_body =>
        obtain rfl := Except.ok.inj done
        exact .leftOut other (Bool.eq_false_iff.mpr not_in_body)

theorem Bound.mem_path_names (done : Bound call request field bound) :
    name ∈ bound.path.names ↔
      name ∈ request.path.names ∨ name ∈ call.pathNames ∧ target call.renames field.1 = .text name := by
  cases done with
  | path named declared _ =>
      rw [Bindings.mem_names_bind, named, or_comm, Scalar.text.injEq]
      exact or_congr_right ⟨fun same => ⟨same ▸ declared, same.symm⟩, fun own => own.2.symm⟩
  | query named other _ _ =>
      rw [named, Scalar.text.injEq]
      refine (or_iff_left ?_).symm
      rintro ⟨declared, rfl⟩
      exact other declared
  | body other _ => exact (or_iff_left fun own => (other name own.2).1 own.1).symm
  | leftOut other _ => exact (or_iff_left fun own => (other name own.2).1 own.1).symm

theorem Bound.mem_query_names (done : Bound call request field bound) :
    name ∈ bound.query.names ↔
      name ∈ request.query.names ∨
        (name ∉ call.pathNames ∧ name ∈ call.queryNames) ∧ target call.renames field.1 = .text name := by
  cases done with
  | path named declared _ =>
      rw [named, Scalar.text.injEq]
      refine (or_iff_left ?_).symm
      rintro ⟨⟨other, -⟩, rfl⟩
      exact other declared
  | query named other declared _ =>
      rw [Bindings.mem_names_bind, named, or_comm, Scalar.text.injEq]
      exact or_congr_right
        ⟨fun same => ⟨same ▸ ⟨other, declared⟩, same.symm⟩, fun own => own.2.symm⟩
  | body other _ => exact (or_iff_left fun own => (other name own.2).2 own.1.2).symm
  | leftOut other _ => exact (or_iff_left fun own => (other name own.2).2 own.1.2).symm

/-- The names under which fields were bound: those of parameters among the names of the fields. -/
theorem mem_names_of_foldlM (built : fields.foldlM call.bindField request = .ok bound)
    (name : String) :
    (name ∈ bound.path.names ↔ name ∈ request.path.names ∨
      name ∈ call.pathNames ∧ ∃ field ∈ fields, target call.renames field.1 = .text name) ∧
    (name ∈ bound.query.names ↔ name ∈ request.query.names ∨
      (name ∉ call.pathNames ∧ name ∈ call.queryNames) ∧
        ∃ field ∈ fields, target call.renames field.1 = .text name) := by
  induction fields generalizing request with
  | nil =>
      obtain rfl := Except.ok.inj built
      simp
  | cons field fields ih =>
      rw [List.foldlM_cons] at built
      obtain ⟨next, done, built⟩ := ok_of_bind built
      have first := bound_of_bindField done
      obtain ⟨path_iff, query_iff⟩ := ih built
      rw [path_iff, query_iff, first.mem_path_names, first.mem_query_names, or_assoc, or_assoc,
        ← and_or_left, ← and_or_left]
      simp only [List.mem_cons, exists_eq_or_imp, and_self]

/-- A field of the resource has the name in the backend. -/
def Supplies (call : Call) (status spec : Fields) (name : String) : Prop :=
  ∃ field ∈ spec ++ status, target call.renames field.1 = .text name

theorem exists_target_iff :
    (∃ field ∈ fields, target call.renames field.1 = .text name) ↔
      ∃ own, .text own ∈ fields.map Prod.fst ∧ (call.renames.get? own).getD own = name := by
  constructor
  · rintro ⟨⟨key, value⟩, mem, named⟩
    cases key with
    | text own => exact ⟨own, List.mem_map_of_mem mem, Scalar.text.inj named⟩
    | _ => simp [target] at named
  · rintro ⟨own, mem, rfl⟩
    obtain ⟨⟨key, value⟩, mem, rfl⟩ := List.mem_map.mp mem
    exact ⟨_, mem, rfl⟩

/-- The fields that are bound have the names of the desired and of the observed state. -/
theorem exists_target_merge_iff :
    (∃ field ∈ Fields.merge (Fields.merge [] spec) status, target call.renames field.1 = .text name) ↔
      Supplies call status spec name := by
  unfold Supplies
  rw [exists_target_iff, exists_target_iff]
  simp only [Fields.text_mem_keys_merge, List.map_append, List.mem_append, List.map_nil,
    List.not_mem_nil, false_or]

theorem mem_names_of_request (built : call.request status spec = .ok request) :
    (name ∈ request.path.names ↔ name ∈ call.pathNames ∧ Supplies call status spec name) ∧
    (name ∈ request.query.names ↔
      (name ∉ call.pathNames ∧ name ∈ call.queryNames) ∧ Supplies call status spec name) := by
  rw [← exists_target_merge_iff]
  simpa [Request.empty, Bindings.names] using mem_names_of_foldlM built name

/-- A field with the name of the key becomes a text. -/
def TakesText (call : Call) (key : Scalar) : Prop :=
  ∃ name, target call.renames key = .text name ∧ (name ∈ call.pathNames ∨ name ∈ call.queryNames)

theorem exists_bindField_iff (request : Request) :
    (∃ bound, call.bindField request field = .ok bound) ↔
      (call.TakesText field.1 → field.2.IsFinite) := by
  constructor
  · rintro ⟨bound, done⟩ ⟨name, named, declared⟩
    cases bound_of_bindField done with
    | path _ _ written => exact Value.exists_parameter_iff.mp ⟨_, written⟩
    | query _ _ _ written => exact Value.exists_parameter_iff.mp ⟨_, written⟩
    | body other _ => exact absurd declared (not_or.mpr (other name named))
    | leftOut other _ => exact absurd declared (not_or.mpr (other name named))
  · intro finite
    unfold bindField
    dsimp only
    split
    next in_path =>
      obtain ⟨name, declared, named⟩ := isNamed_iff.mp in_path
      obtain ⟨text, written⟩ := Value.exists_parameter_iff.mpr (finite ⟨name, named, .inl declared⟩)
      rw [written]
      exact ⟨_, rfl⟩
    split
    next in_query =>
      obtain ⟨name, declared, named⟩ := isNamed_iff.mp in_query
      obtain ⟨text, written⟩ := Value.exists_parameter_iff.mpr (finite ⟨name, named, .inr declared⟩)
      rw [written]
      exact ⟨_, rfl⟩
    split
    · exact ⟨_, rfl⟩
    · exact ⟨_, rfl⟩

theorem exists_foldlM_iff (request : Request) :
    (∃ bound, fields.foldlM call.bindField request = .ok bound) ↔
      ∀ field ∈ fields, call.TakesText field.1 → field.2.IsFinite := by
  induction fields generalizing request with
  | nil => simpa using ⟨request, rfl⟩
  | cons field fields ih =>
      rw [List.forall_mem_cons, ← exists_bindField_iff request]
      constructor
      · rintro ⟨bound, built⟩
        rw [List.foldlM_cons] at built
        obtain ⟨next, done, built⟩ := ok_of_bind built
        exact ⟨⟨next, done⟩, (ih next).mp ⟨bound, built⟩⟩
      · rintro ⟨⟨next, done⟩, finite⟩
        obtain ⟨bound, built⟩ := (ih next).mpr finite
        refine ⟨bound, ?_⟩
        rw [List.foldlM_cons, done]
        exact built

/-- A request is built of fields whose values are finite. -/
theorem exists_request (finite : ∀ field ∈ spec ++ status, field.2.IsFinite) :
    ∃ request, call.request status spec = .ok request := by
  refine (exists_foldlM_iff .empty).mpr fun field mem _ => ?_
  have held : field.2 ∈ (spec ++ status).values := by
    rw [Fields.values, List.map_append, List.mem_append]
    obtain mem | mem := Fields.mem_values_merge (List.mem_map_of_mem mem)
    · exact .inl ((Fields.mem_values_merge mem).resolve_left List.not_mem_nil)
    · exact .inr mem
  obtain ⟨stated, stated_mem, same⟩ := List.mem_map.mp held
  exact same ▸ finite stated stated_mem

end Call

/-! ## Validation -/

namespace Description

variable {d : Description} {method path : String} {pathNames queryNames : List String}
  {parameters : List Parameter} {parameter : Parameter}

theorem mem_namesIn {name place : String} :
    name ∈ namesIn parameters place ↔ ∃ p ∈ parameters, p.isIn place = true ∧ p.name = name := by
  simp only [namesIn, List.mem_eraseDups, List.mem_map, List.mem_filter, and_assoc]

/-- A request needs a value for the parameter. -/
def Parameter.isNeeded (parameter : Parameter) : Bool :=
  parameter.isIn "path" || parameter.isIn "query" && parameter.isRequired

/-- The fault of a request without a value for the parameter. -/
def Parameter.missing (method path : String) (parameter : Parameter) : ValidationFault :=
  if parameter.isIn "path" then .missingPathParameter parameter.name method path
  else .missingQueryParameter parameter.name method path

/-- The fault of the parameter, when it needs a value and has none. -/
def Parameter.fault? (method path : String) (pathNames queryNames : List String)
    (parameter : Parameter) : Option ValidationFault :=
  if parameter.isIn "path" && !pathNames.contains parameter.name then
    some (.missingPathParameter parameter.name method path)
  else if parameter.isIn "query" && parameter.isRequired && !queryNames.contains parameter.name then
    some (.missingQueryParameter parameter.name method path)
  else none

/-- Where both places agree on the names that have a value, a parameter is missing when it needs a value
and its name has none. -/
theorem Parameter.fault?_eq_some_iff {supplied : Prop} {fault : ValidationFault}
    (in_path : parameter.isIn "path" = true → (parameter.name ∈ pathNames ↔ supplied))
    (in_query : parameter.isIn "query" = true → (parameter.name ∈ queryNames ↔ supplied)) :
    parameter.fault? method path pathNames queryNames = some fault ↔
      (parameter.isNeeded = true ∧ ¬supplied) ∧ fault = parameter.missing method path := by
  unfold fault? isNeeded missing
  by_cases placed : parameter.isIn "path" = true
  · by_cases held : supplied
    · have no_query_fault : (parameter.isIn "query" && parameter.isRequired &&
          !queryNames.contains parameter.name) = false := by
        cases asked : parameter.isIn "query" with
        | false => rfl
        | true => simp [(in_query asked).mpr held]
      rw [no_query_fault]
      simp [(in_path placed).mpr held, held]
    · simp [placed, in_path placed, held, eq_comm]
  · cases asked : parameter.isIn "query" with
    | false => simp [placed]
    | true =>
        simp only [Bool.not_eq_true] at placed
        simpa [placed, in_query asked] using fun _ _ => eq_comm

theorem validateRequest_eq (declared : d.parameters method path = .ok parameters) :
    d.validateRequest method path pathNames queryNames =
      match parameters.findSome? (Parameter.fault? method path pathNames queryNames) with
      | some fault => .error (.validation fault)
      | none => .ok () := by
  rw [validateRequest, declared]
  rfl

end Description

namespace Call

open Description (Parameter)

variable {description : Description} {descriptor : Descriptor} {action : Action} {call : Call}
  {request : Request} {status spec : Fields}

/-- The names of a resolved call are those of the parameters that the description declares. -/
theorem parameters_of_resolve (resolved : resolve description descriptor action = .ok call) :
    ∃ parameters, description.parameters call.method call.path = .ok parameters ∧
      call.pathNames = Description.namesIn parameters "path" ∧
        call.queryNames = Description.namesIn parameters "query" := by
  unfold resolve at resolved
  split at resolved
  next verb _ =>
    obtain ⟨kind, -, resolved⟩ := ok_of_bind resolved
    obtain ⟨names, found, resolved⟩ := ok_of_bind resolved
    obtain ⟨parameters, declared, same⟩ := ok_of_bind found
    obtain rfl := Except.ok.inj same
    dsimp only at resolved
    split at resolved
    · obtain ⟨bodyNames, -, resolved⟩ := ok_of_bind resolved
      obtain rfl := Except.ok.inj resolved
      exact ⟨parameters, declared, rfl, rfl⟩
    · obtain rfl := Except.ok.inj resolved
      exact ⟨parameters, declared, rfl, rfl⟩
  · contradiction

/-- A request needs the parameter, and no field of the resource has its name in the backend. -/
def Lacks (call : Call) (status spec : Fields) (parameter : Parameter) : Prop :=
  parameter.isNeeded = true ∧ ¬call.Supplies status spec parameter.name

/-- No name is declared for a path parameter and for a query parameter. -/
def Separate (parameters : List Parameter) : Prop :=
  ∀ p ∈ parameters, ∀ q ∈ parameters, p.isIn "path" = true → q.isIn "query" = true → p.name ≠ q.name

/-- A parameter of a call has no value in a built request exactly where the call lacks it. -/
theorem fault?_of_request {parameters : List Parameter} (separate : Separate parameters)
    (path_names : call.pathNames = Description.namesIn parameters "path")
    (query_names : call.queryNames = Description.namesIn parameters "query")
    (built : call.request status spec = .ok request) {parameter : Parameter}
    (listed : parameter ∈ parameters) (fault : ValidationFault) :
    parameter.fault? call.method call.path request.path.names request.query.names = some fault ↔
      call.Lacks status spec parameter ∧ fault = parameter.missing call.method call.path := by
  refine Parameter.fault?_eq_some_iff (fun in_path => ?_) fun in_query => ?_
  · have declared : parameter.name ∈ call.pathNames :=
      path_names ▸ Description.mem_namesIn.mpr ⟨parameter, listed, in_path, rfl⟩
    rw [(mem_names_of_request built).1]
    exact and_iff_right declared
  · have declared : parameter.name ∈ call.queryNames :=
      query_names ▸ Description.mem_namesIn.mpr ⟨parameter, listed, in_query, rfl⟩
    have not_path : parameter.name ∉ call.pathNames := by
      rw [path_names, Description.mem_namesIn]
      rintro ⟨other, other_listed, in_path, same⟩
      exact separate other other_listed parameter listed in_path in_query same
    rw [(mem_names_of_request built).2]
    exact and_iff_right ⟨not_path, declared⟩

/-- The request of a resolved call is built of fields with finite values.  The check of a built request
fails exactly where the call lacks a parameter, as long as no name is declared for a path parameter and
for a query parameter; and it reports the first parameter that the call lacks. -/
theorem validateRequest_request (resolved : resolve description descriptor action = .ok call) :
    ∃ parameters, description.parameters call.method call.path = .ok parameters ∧
      ∀ status spec : Fields,
        ((∀ field ∈ spec ++ status, field.2.IsFinite) →
          ∃ request, call.request status spec = .ok request) ∧
        ∀ request, Separate parameters → call.request status spec = .ok request →
          ((∃ fault, description.validateRequest call.method call.path request.path.names
              request.query.names = .error (.validation fault)) ↔
            ∃ parameter ∈ parameters, call.Lacks status spec parameter) ∧
          ∀ failure, description.validateRequest call.method call.path request.path.names
              request.query.names = .error failure →
            ∃ before parameter after, parameters = before ++ parameter :: after ∧
              (∀ earlier ∈ before, ¬call.Lacks status spec earlier) ∧
                call.Lacks status spec parameter ∧
                  failure = .validation (parameter.missing call.method call.path) := by
  obtain ⟨parameters, declared, path_names, query_names⟩ := parameters_of_resolve resolved
  refine ⟨parameters, declared, fun status spec => ⟨exists_request, fun request separate built => ?_⟩⟩
  have fault_iff {parameter : Parameter} (listed : parameter ∈ parameters) {fault : ValidationFault} :=
    fault?_of_request separate path_names query_names built listed fault
  rw [Description.validateRequest_eq declared]
  cases found : parameters.findSome?
      (Parameter.fault? call.method call.path request.path.names request.query.names) with
  | none =>
      have passed := List.findSome?_eq_none_iff.mp found
      refine ⟨⟨fun raised => by simp at raised, ?_⟩, fun failure raised => by simp at raised⟩
      rintro ⟨parameter, listed, lacks⟩
      have reported := (fault_iff listed).mpr ⟨lacks, rfl⟩
      rw [passed parameter listed] at reported
      contradiction
  | some fault =>
      obtain ⟨before, parameter, after, split, reported, passed⟩ := List.findSome?_eq_some_iff.mp found
      have listed : parameter ∈ parameters := by simp [split]
      obtain ⟨lacks, rfl⟩ := (fault_iff listed).mp reported
      refine ⟨⟨fun _ => ⟨parameter, listed, lacks⟩, fun _ => ⟨_, rfl⟩⟩, fun failure raised => ?_⟩
      refine ⟨before, parameter, after, split, fun earlier mem lacks_earlier => ?_, lacks, ?_⟩
      · have earlier_listed : earlier ∈ parameters := by simp [split, mem]
        have reported := (fault_iff earlier_listed).mpr ⟨lacks_earlier, rfl⟩
        rw [passed earlier mem] at reported
        contradiction
      · exact (Except.error.inj raised).symm

/-- The declaration of a parameter that is required in a place. -/
def requiredIn (place name : String) : Fields :=
  [(.text "name", .text name), (.text "in", .text place), (.text "required", .bool true)]

/-- A description with one operation, which has a path parameter and a query parameter. -/
def oneOperation : Description :=
  let parameters : List Value := [.map (requiredIn "path" "name"), .map (requiredIn "query" "owner")]
  let item : Value := .map [(.text "get", .map [(.text "parameters", .list parameters)])]
  ⟨.map [(.text "paths", .map [(.text "/repos", item)])], ""⟩

/-- A descriptor for the operation, by which the repository gives the name. -/
def oneVerb : Descriptor :=
  ⟨"Repo", [], [⟨"get", "get", "/repos", [("repository", "name")]⟩], [], []⟩

/-- The call of the operation. -/
def oneCall : Call :=
  { action := .get, kind := .get, method := "GET", path := "/repos", pathNames := ["name"]
    queryNames := ["owner"], bodyNames := [], identifiers := [], renames := [("repository", "name")] }

/-- The request of a repository with a name has no owner. -/
theorem validateRequest_request_owner :
    resolve oneOperation oneVerb .get = .ok oneCall ∧
      ∃ request, oneCall.request [] [(.text "repository", .text "demo")] = .ok request ∧
        ∃ fault, oneOperation.validateRequest "GET" "/repos" request.path.names request.query.names =
          .error (.validation fault) := by
  have resolved : resolve oneOperation oneVerb .get = .ok oneCall := rfl
  obtain ⟨parameters, declared, checked⟩ := validateRequest_request resolved
  have listed : oneOperation.parameters "GET" "/repos" =
      .ok [⟨"name", "path", requiredIn "path" "name"⟩, ⟨"owner", "query", requiredIn "query" "owner"⟩] :=
    rfl
  obtain rfl := Except.ok.inj (listed.symm.trans declared)
  obtain ⟨exists_request, checked⟩ := checked [] [(.text "repository", .text "demo")]
  obtain ⟨request, built⟩ := exists_request (by simp [Value.IsFinite])
  have separate : Separate [⟨"name", "path", requiredIn "path" "name"⟩,
      ⟨"owner", "query", requiredIn "query" "owner"⟩] := by
    unfold Separate
    decide
  refine ⟨resolved, request, built, (checked request separate built).1.mpr ?_⟩
  refine ⟨_, List.mem_cons_of_mem _ List.mem_cons_self, rfl, ?_⟩
  unfold Supplies
  simp [target, oneCall, Bindings.get?]

end Call

end Reconciler
