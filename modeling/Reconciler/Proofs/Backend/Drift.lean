import Reconciler.Backend.Drift
import Reconciler.Proofs.Backend.Binding
import Reconciler.Proofs.Value.Equality

/-!
# Drift after an echo

A request is built and an answer is compared by the same renaming of fields.  Where no two fields have one
name in the backend, the body of a request has the value of each field that it has a place for; so a
backend that answers with what it was sent shows no drift.
-/

namespace Reconciler

namespace Call

variable {call : Call} {request bound : Request} {field : Scalar × Value} {fields : Fields}

/-- The field of the body that a field of a resource becomes, none when it has another place. -/
def bodyField? (call : Call) (field : Scalar × Value) : Option (Scalar × Value) :=
  let key := target call.renames field.1
  if isNamed call.pathNames key || isNamed call.queryNames key then none
  else if call.bodyNames.any (·.sameKey key) then some (key, field.2)
  else none

theorem bodyField?_eq_some {entry : Scalar × Value} (becomes : call.bodyField? field = some entry) :
    entry = (target call.renames field.1, field.2) := by
  unfold bodyField? at becomes
  dsimp only at becomes
  split_ifs at becomes
  exact (Option.some.inj becomes).symm

theorem isNamed_eq_false {names : List String} {key : Scalar}
    (other : ∀ name, key = .text name → name ∉ names) : isNamed names key = false := by
  refine Bool.eq_false_iff.mpr fun named => ?_
  obtain ⟨name, declared, same⟩ := isNamed_iff.mp named
  exact other name same declared

theorem Bound.body_eq (done : Bound call request field bound) :
    bound.body = Fields.merge request.body (call.bodyField? field).toList := by
  unfold bodyField?
  dsimp only
  cases done with
  | path named declared _ =>
      rw [isNamed_iff.mpr ⟨_, declared, named⟩]
      rfl
  | query named other declared _ =>
      rw [isNamed_iff.mpr ⟨_, declared, named⟩, Bool.or_true]
      rfl
  | body other declared =>
      rw [isNamed_eq_false fun name named => (other name named).1,
        isNamed_eq_false fun name named => (other name named).2, declared]
      rfl
  | leftOut other undeclared =>
      rw [isNamed_eq_false fun name named => (other name named).1,
        isNamed_eq_false fun name named => (other name named).2, undeclared]
      rfl

/-- The body of a request is written field by field. -/
theorem body_of_foldlM (built : fields.foldlM call.bindField request = .ok bound) :
    bound.body = Fields.merge request.body (fields.filterMap call.bodyField?) := by
  induction fields generalizing request with
  | nil =>
      obtain rfl := Except.ok.inj built
      rfl
  | cons field fields ih =>
      rw [List.foldlM_cons] at built
      obtain ⟨next, done, built⟩ := ok_of_bind built
      rw [ih built, (bound_of_bindField done).body_eq, List.filterMap_cons]
      cases call.bodyField? field <;> rfl

/-! ## Fields with names of their own -/

theorem target_sameKey {renames : Bindings} {a b : Scalar}
    (same : (target renames a).sameKey (target renames b) = true) :
    target renames a = target renames b ∨ a.sameKey b = true := by
  cases a with
  | text name => exact .inl ((Scalar.text_sameKey_iff _ _).mp same).symm
  | _ =>
      cases b with
      | text name => exact .inl ((Scalar.sameKey_text_iff _ _).mp same)
      | _ => exact .inr same

section Separate

variable {spec : Fields} (distinct : spec.Distinct) (separate : call.Separates spec)
include distinct separate

/-- A field is told by its name in the backend. -/
theorem eq_of_target_sameKey {a b : Scalar × Value} (a_mem : a ∈ spec) (b_mem : b ∈ spec)
    (same : (target call.renames a.1).sameKey (target call.renames b.1) = true) : a = b := by
  refine distinct.eq_of_sameKey a_mem b_mem ?_
  rcases target_sameKey same with targets | keys
  · rw [separate a a_mem b b_mem targets]
    exact b.1.sameKey_self
  · exact keys

theorem distinct_bodyFields : Fields.Distinct (spec.filterMap call.bodyField?) := by
  have apart : spec.Pairwise fun a b =>
      (target call.renames a.1).sameKey (target call.renames b.1) = false :=
    distinct.imp_of_mem fun {a b} a_mem b_mem own => by
      refine Bool.eq_false_iff.mpr fun same => ?_
      obtain rfl := eq_of_target_sameKey distinct separate a_mem b_mem same
      rw [Scalar.sameKey_self] at own
      contradiction
  refine List.Pairwise.filterMap _ (fun a b own entry entry_eq other other_eq => ?_) apart
  rw [bodyField?_eq_some entry_eq, bodyField?_eq_some other_eq]
  exact own

/-- The body of a request from a desired state alone. -/
theorem body_of_request (built : call.request [] spec = .ok request) :
    request.body = spec.filterMap call.bodyField? := by
  have fields_eq : Fields.merge (Fields.merge [] spec) [] = spec :=
    Fields.merge_eq_append (show Fields.Distinct ([] ++ spec) from distinct)
  have body_eq : Fields.merge [] (spec.filterMap call.bodyField?) = spec.filterMap call.bodyField? :=
    Fields.merge_eq_append (distinct_bodyFields distinct separate)
  have written := body_of_foldlM built
  rw [fields_eq] at written
  exact written.trans body_eq

/-- A field whose name in the backend is a key of the body has its value there. -/
theorem find?_body (built : call.request [] spec = .ok request) (member : field ∈ spec)
    (present : request.body.has (target call.renames field.1) = true) :
    request.body.find? (target call.renames field.1) = some field.2 := by
  rw [body_of_request distinct separate built] at present ⊢
  obtain ⟨entry, entry_mem, same⟩ := Fields.has_iff.mp present
  obtain ⟨other, other_mem, becomes⟩ := List.mem_filterMap.mp entry_mem
  obtain rfl := bodyField?_eq_some becomes
  obtain rfl := eq_of_target_sameKey distinct separate other_mem member same
  exact Fields.find?_of_mem (distinct_bodyFields distinct separate) entry_mem

end Separate

end Call

/-- Under each key of a body, an answer has the value of the body, or one that equals it. -/
def Fields.Echoes (response body : Fields) : Prop :=
  ∀ key value, body.find? key = some value →
    ∃ shown, response.find? key = some shown ∧ (shown = value ∨ value.equal shown = true)

namespace Drift

variable {spec response : Fields} {renames : Bindings}

theorem differs_eq (response : Fields) (renames : Bindings) (field : Scalar × Value) :
    differs response renames field =
      match response.find? (Call.target renames field.1) with
      | some actual => !field.2.equal actual
      | none => false := by
  obtain ⟨key, value⟩ := field
  cases key <;> rfl

/-- Listed fields do not differ when the answer has each of them, with its desired value if it has one. -/
theorem listed_eq_nil {names : List String}
    (shown : ∀ name ∈ names, ∃ actual, response.get? (remoteName renames name) = some actual ∧
      ∀ desired, spec.get? name = some desired → desired.equal actual = true) :
    listed spec response renames names = .ok [] := by
  induction names with
  | nil => rfl
  | cons name rest ih =>
      obtain ⟨⟨actual, found, equal⟩, others⟩ := List.forall_mem_cons.mp shown
      rw [listed, found, ih others]
      cases wanted : spec.get? name with
      | none => rfl
      | some desired => simp [equal desired wanted]

/-- A backend that answers with what it was sent shows no drift: where no two fields of the desired state
have one name in the backend, and the answer has no field of the desired state that was not sent, no field
differs, whether all are compared or some that were sent. -/
theorem fields_of_echo {call : Call} {request : Request} {compared : List String}
    (proper : (Value.map spec).Proper) (defined : (Value.map spec).Defined)
    (separate : call.Separates spec) (built : call.request [] spec = .ok request)
    (echo : response.Echoes request.body)
    (only : ∀ field ∈ spec, response.has (Call.target call.renames field.1) = true →
      request.body.has (Call.target call.renames field.1) = true)
    (sent : ∀ name ∈ compared, request.body.has (.text (remoteName call.renames name)) = true) :
    fields spec response compared call.renames = .ok [] := by
  obtain ⟨distinct, parts, defined_parts⟩ : spec.Distinct ∧ (∀ field ∈ spec, field.2.Proper) ∧
      ∀ field ∈ spec, field.2.Defined := by
    cases proper with
    | map distinct parts =>
        cases defined with
        | map defined_parts => exact ⟨distinct, parts, defined_parts⟩
  have shown (field) (member : field ∈ spec)
      (present : request.body.has (Call.target call.renames field.1) = true) :
      ∃ actual, response.find? (Call.target call.renames field.1) = some actual ∧
        field.2.equal actual = true := by
    obtain ⟨actual, found, same | equal⟩ :=
      echo _ _ (Call.find?_body distinct separate built member present)
    · rw [same] at found
      exact ⟨field.2, found, (parts field member).equal_self (defined_parts field member)⟩
    · exact ⟨actual, found, equal⟩
  unfold fields
  split
  · -- The fields that are compared are those of the answer, and each of them was sent.
    refine congrArg Except.ok (List.map_eq_nil_iff.mpr (List.filter_eq_nil_iff.mpr fun field member => ?_))
    rw [differs_eq]
    cases found : response.find? (Call.target call.renames field.1) with
    | none => simp
    | some other =>
        have present : response.has (Call.target call.renames field.1) = true := by
          rw [Fields.has, found]
          rfl
        obtain ⟨actual, here, equal⟩ := shown field member (only field member present)
        obtain rfl := Option.some.inj (found.symm.trans here)
        simp [equal]
  · refine listed_eq_nil fun name member => ?_
    obtain ⟨value, held⟩ := Option.isSome_iff_exists.mp (sent name member)
    obtain ⟨actual, found, -⟩ := echo _ _ held
    refine ⟨actual, found, fun desired wanted => ?_⟩
    obtain ⟨other, here, equal⟩ := shown _ (Fields.mem_of_get? wanted) (sent name member)
    obtain rfl := Option.some.inj (found.symm.trans here)
    exact equal

/-- A call whose body has a name and a flag, which the resource calls otherwise. -/
def renamingCall : Call :=
  { action := .create, kind := .post, method := "POST", path := "/repos/\x7bowner\x7d", pathNames := ["owner"]
    queryNames := [], bodyNames := [.text "name", .text "private"], identifiers := ["id"]
    renames := [("repoName", "name"), ("org", "owner")] }

/-- A desired state with a field for the path, two for the body, and one that is not sent. -/
def wantedRepo : Fields :=
  [(.text "repoName", .text "a"), (.text "org", .text "acme"), (.text "private", .bool true),
    (.text "local", .int 1)]

/-- The request for the desired state. -/
def repoRequest : Request :=
  ⟨[("owner", "acme")], [], [(.text "name", .text "a"), (.text "private", .bool true)]⟩

/-- An answer with the fields that were sent, a number in the place of the truth value, and one more. -/
def repoAnswer : Fields :=
  [(.text "id", .int 7), (.text "private", .int 1), (.text "name", .text "a")]

theorem fields_of_echo_repo :
    renamingCall.request [] wantedRepo = .ok repoRequest ∧
      fields wantedRepo repoAnswer [] renamingCall.renames = .ok [] ∧
        fields wantedRepo repoAnswer ["repoName", "private", "name"] renamingCall.renames = .ok [] := by
  have built : renamingCall.request [] wantedRepo = .ok repoRequest := rfl
  have proper : (Value.map wantedRepo).Proper := by
    refine .map ?_ ?_
    · simp [wantedRepo, Fields.Distinct, Scalar.sameKey, Scalar.equalBy]
    · simp [wantedRepo, Value.Proper.scalar]
  have defined : (Value.map wantedRepo).Defined := by
    refine .map ?_
    simp only [wantedRepo, List.forall_mem_cons]
    exact ⟨.scalar nofun, .scalar nofun, .scalar nofun, .scalar nofun, by simp⟩
  have separate : renamingCall.Separates wantedRepo := by
    simp [Call.Separates, wantedRepo, Call.target, renamingCall, Bindings.get?, List.lookup_cons]
  have echo : repoAnswer.Echoes repoRequest.body := by
    intro key value found
    simp only [repoRequest, Fields.find?] at found
    split_ifs at found with name flag
    · obtain rfl := (Scalar.text_sameKey_iff _ key).mp name
      exact ⟨.text "a", rfl, .inl (Option.some.inj found)⟩
    · obtain rfl := (Scalar.text_sameKey_iff _ key).mp flag
      obtain rfl := Option.some.inj found
      exact ⟨.int 1, rfl, .inr rfl⟩
  have only : ∀ field ∈ wantedRepo,
      repoAnswer.has (Call.target renamingCall.renames field.1) = true →
        repoRequest.body.has (Call.target renamingCall.renames field.1) = true := by
    simp only [wantedRepo, List.forall_mem_cons]
    exact ⟨fun _ => rfl, fun present => absurd present (by decide), fun _ => rfl,
      fun present => absurd present (by decide), by simp⟩
  exact ⟨built, fields_of_echo proper defined separate built echo only (by simp),
    fields_of_echo proper defined separate built echo only (by decide)⟩

end Drift

end Reconciler
