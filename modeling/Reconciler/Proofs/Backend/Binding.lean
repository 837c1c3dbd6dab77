import Mathlib.Data.List.Induction
import Reconciler.Proofs.Backend.Addresses
import Reconciler.Proofs.Value.Merge

/-!
# What a request holds

The fields of a resource are bound one after the other.  What a request holds under a name in the end is
told by the last field that has the name in the backend: it stands in one part of the request, which the
call declares, and nothing else stands under the name.
-/

namespace Reconciler

/-- What a request holds under a name. -/
structure Held where
  /-- The texts among the path parameters. -/
  path : List String
  /-- The texts among the query parameters. -/
  query : List String
  /-- The values among the fields of the body. -/
  body : List Value

namespace Held

/-- Nothing is held. -/
def nothing : Held :=
  ⟨[], [], []⟩

theorem eq_nothing {held : Held} (path : held.path = []) (query : held.query = [])
    (body : held.body = []) : held = nothing := by
  cases held
  simp_all [nothing]

end Held

namespace Request

variable {request : Request} {name other : String}

/-- All that a request holds under a name. -/
def under (request : Request) (name : String) : Held where
  path := (request.path.filter (·.1 == name)).map Prod.snd
  query := (request.query.filter (·.1 == name)).map Prod.snd
  body := (request.body.filter (·.1.sameKey (.text name))).map Prod.snd

theorem under_bind_path (request : Request) (name text : String) :
    Request.under { request with path := Bindings.bind name text request.path } name =
      ⟨text :: (request.under name).path.tail, (request.under name).query,
        (request.under name).body⟩ := by
  simp [under, Bindings.filter_bind_self, List.map_tail]

theorem under_bind_path_of_ne (apart : name ≠ other) (text : String) :
    Request.under { request with path := Bindings.bind name text request.path } other =
      request.under other := by
  simp [under, Bindings.filter_bind_of_ne apart]

theorem under_bind_query (request : Request) (name text : String) :
    Request.under { request with query := Bindings.bind name text request.query } name =
      ⟨(request.under name).path, text :: (request.under name).query.tail,
        (request.under name).body⟩ := by
  simp [under, Bindings.filter_bind_self, List.map_tail]

theorem under_bind_query_of_ne (apart : name ≠ other) (text : String) :
    Request.under { request with query := Bindings.bind name text request.query } other =
      request.under other := by
  simp [under, Bindings.filter_bind_of_ne apart]

theorem under_put_body (request : Request) (name : String) (value : Value) :
    Request.under { request with body := Fields.put (.text name) value request.body } name =
      ⟨(request.under name).path, (request.under name).query,
        value :: (request.under name).body.tail⟩ := by
  simp [under, Fields.filter_put_self, List.map_tail]

theorem under_put_body_of_ne {key : Scalar} (apart : key ≠ .text name) (value : Value) :
    Request.under { request with body := Fields.put key value request.body } name =
      request.under name := by
  simp [under, Fields.filter_put_of_ne apart]

end Request

namespace Call

variable {call : Call} {request bound : Request} {field : Scalar × Value} {fields status spec : Fields}
  {name : String}

/-- The call declares a field of the body with the name. -/
def hasBodyName (call : Call) (name : String) : Bool :=
  call.bodyNames.any (·.sameKey (.text name))

/-- What is held under a name is the value of a field, in the one part of the request that the call has for
the name: a path parameter, else a query parameter, else a field of the body, else no part. -/
def Places (call : Call) (name : String) (value : Value) (held : Held) : Prop :=
  if name ∈ call.pathNames then
    ∃ text, value.parameter = .ok text ∧ held = ⟨[text], [], []⟩
  else if name ∈ call.queryNames then
    ∃ text, value.parameter = .ok text ∧ held = ⟨[], [text], []⟩
  else if call.hasBodyName name then held = ⟨[], [], [value]⟩
  else held = .nothing

/-- Each name holds the value of the last field with the name, and nothing when no field has it. -/
def Binds (call : Call) (fields : Fields) (request : Request) : Prop :=
  ∀ name,
    match call.lastNamed name fields with
    | some field => call.Places name field.2 (request.under name)
    | none => request.under name = .nothing

/-- What is held under a name has room for one value, in the part that the call has for the name. -/
def HasRoom (call : Call) (name : String) (held : Held) : Prop :=
  (name ∈ call.pathNames ∨ held.path = []) ∧
    (name ∉ call.pathNames ∧ name ∈ call.queryNames ∨ held.query = []) ∧
      (name ∉ call.pathNames ∧ name ∉ call.queryNames ∧ call.hasBodyName name ∨ held.body = []) ∧
        held.path.tail = [] ∧ held.query.tail = [] ∧ held.body.tail = []

theorem lastNamed_concat (call : Call) (name : String) (fields : Fields) (field : Scalar × Value) :
    call.lastNamed name (fields ++ [field]) =
      if isNamed [name] (target call.renames field.1) then some field
      else call.lastNamed name fields := by
  induction fields with
  | nil => simp [lastNamed]
  | cons first fields ih =>
      rw [List.cons_append, lastNamed, ih, lastNamed]
      split <;> simp

theorem lastNamed_eq_find? (call : Call) (name : String) (fields : Fields) :
    call.lastNamed name fields =
      fields.reverse.find? fun field => isNamed [name] (target call.renames field.1) := by
  induction fields using List.reverseRecOn with
  | nil => rfl
  | append_singleton fields field ih =>
      rw [lastNamed_concat, List.reverse_concat, List.find?_cons, ih]
      split <;> simp_all

theorem lastNamed_eq_none_iff :
    call.lastNamed name fields = none ↔
      ∀ field ∈ fields, target call.renames field.1 ≠ .text name := by
  simp [lastNamed_eq_find?, isNamed_singleton_iff]

/-- The last field with a name is followed by none with the name. -/
theorem lastNamed_eq_some_iff :
    call.lastNamed name fields = some field ↔
      ∃ before after, fields = before ++ field :: after ∧
        target call.renames field.1 = .text name ∧
          ∀ later ∈ after, target call.renames later.1 ≠ .text name := by
  rw [lastNamed_eq_find?, List.find?_eq_some_iff_append, isNamed_singleton_iff]
  constructor
  · rintro ⟨named, after, before, split, passed⟩
    refine ⟨before.reverse, after.reverse, ?_, named, fun later mem same => ?_⟩
    · simpa using congrArg List.reverse split
    · have missed := passed later (List.mem_reverse.mp mem)
      simp [isNamed_singleton_iff.mpr same] at missed
  · rintro ⟨before, after, rfl, named, passed⟩
    refine ⟨named, after.reverse, before.reverse, by simp, fun later mem => ?_⟩
    have missed := mt isNamed_singleton_iff.mp (passed later (List.mem_reverse.mp mem))
    simpa using missed

theorem Binds.hasRoom (binds : call.Binds fields request) (name : String) :
    call.HasRoom name (request.under name) := by
  have own := binds name
  split at own
  next field found =>
    unfold Places at own
    split_ifs at own with in_path in_query in_body
    · obtain ⟨text, -, own⟩ := own
      simp [HasRoom, own, in_path]
    · obtain ⟨text, -, own⟩ := own
      simp [HasRoom, own, in_path, in_query]
    · simp [HasRoom, own, in_path, in_query, in_body]
    · simp [HasRoom, own, Held.nothing]
  next => simp [HasRoom, own, Held.nothing]

/-- A field with the name is what the name holds after it was bound. -/
theorem Bound.places (done : Bound call request field bound)
    (room : call.HasRoom name (request.under name)) (named : target call.renames field.1 = .text name) :
    call.Places name field.2 (bound.under name) := by
  obtain ⟨path_room, query_room, body_room, path_end, query_end, body_end⟩ := room
  cases done with
  | @path own text own_named declared written =>
      obtain rfl := Scalar.text.inj (named.symm.trans own_named)
      have query_empty := query_room.resolve_left fun has => has.1 declared
      have body_empty := body_room.resolve_left fun has => has.1 declared
      rw [Places, if_pos declared, Request.under_bind_path, path_end, query_empty, body_empty]
      exact ⟨text, written, rfl⟩
  | @query own text own_named not_path declared written =>
      obtain rfl := Scalar.text.inj (named.symm.trans own_named)
      have path_empty := path_room.resolve_left not_path
      have body_empty := body_room.resolve_left fun has => has.2.1 declared
      rw [Places, if_neg not_path, if_pos declared, Request.under_bind_query, query_end, path_empty,
        body_empty]
      exact ⟨text, written, rfl⟩
  | body other declared =>
      obtain ⟨not_path, not_query⟩ := other name named
      have path_empty := path_room.resolve_left not_path
      have query_empty := query_room.resolve_left fun has => not_query has.2
      rw [named] at declared ⊢
      rw [Places, if_neg not_path, if_neg not_query, hasBodyName, if_pos declared,
        Request.under_put_body, path_empty, query_empty, body_end]
  | leftOut other undeclared =>
      obtain ⟨not_path, not_query⟩ := other name named
      rw [named] at undeclared
      have no_body : ¬call.hasBodyName name = true := Bool.eq_false_iff.mp undeclared
      rw [Places, if_neg not_path, if_neg not_query, if_neg no_body]
      exact Held.eq_nothing (path_room.resolve_left not_path)
        (query_room.resolve_left fun has => not_query has.2)
        (body_room.resolve_left fun has => no_body has.2.2)

/-- Binding a field leaves alone what other names hold. -/
theorem Bound.under_of_apart (done : Bound call request field bound)
    (apart : target call.renames field.1 ≠ .text name) : bound.under name = request.under name := by
  cases done with
  | @path own text named _ _ =>
      exact Request.under_bind_path_of_ne (fun same => apart (named.trans (congrArg _ same))) text
  | @query own text named _ _ _ =>
      exact Request.under_bind_query_of_ne (fun same => apart (named.trans (congrArg _ same))) text
  | body _ _ => exact Request.under_put_body_of_ne apart field.2
  | leftOut _ _ => rfl

/-- Binding one more field keeps what is held in step with the fields. -/
theorem Binds.concat (binds : call.Binds fields request) (done : Bound call request field bound) :
    call.Binds (fields ++ [field]) bound := by
  intro name
  rw [lastNamed_concat]
  by_cases named : target call.renames field.1 = .text name
  · rw [if_pos (isNamed_singleton_iff.mpr named)]
    exact done.places (binds.hasRoom name) named
  · rw [if_neg (mt isNamed_singleton_iff.mp named), done.under_of_apart named]
    exact binds name

theorem binds_empty (call : Call) : call.Binds [] .empty :=
  fun _ => rfl

/-- A request that is built of fields holds under each name what the last field with the name tells. -/
theorem binds_of_foldlM (built : fields.foldlM call.bindField .empty = .ok request) :
    call.Binds fields request := by
  induction fields using List.reverseRecOn generalizing request with
  | nil =>
      obtain rfl := Except.ok.inj built
      exact call.binds_empty
  | append_singleton fields field ih =>
      rw [List.foldlM_append] at built
      obtain ⟨before, first, last⟩ := ok_of_bind built
      rw [List.foldlM_cons] at last
      obtain ⟨after, done, same⟩ := ok_of_bind last
      obtain rfl := Except.ok.inj same
      exact (ih first).concat (bound_of_bindField done)

/-! ## Requests -/

/-- The fields have their own names in the backend. -/
def Separates (call : Call) (fields : Fields) : Prop :=
  ∀ a ∈ fields, ∀ b ∈ fields, target call.renames a.1 = target call.renames b.1 → a.1 = b.1

/-- A field that has its name alone is the last one with the name. -/
theorem lastNamed_of_mem (distinct : fields.Distinct) (member : field ∈ fields)
    (named : target call.renames field.1 = .text name)
    (alone : ∀ other ∈ fields, target call.renames other.1 = .text name → other.1 = field.1) :
    call.lastNamed name fields = some field := by
  cases last : call.lastNamed name fields with
  | none => exact absurd named (lastNamed_eq_none_iff.mp last field member)
  | some other =>
      obtain ⟨before, after, split, other_named, -⟩ := lastNamed_eq_some_iff.mp last
      have other_member : other ∈ fields := by simp [split]
      have key : other.1 = field.1 := alone other other_member other_named
      have found := Fields.find?_of_mem distinct
        (show (field.1, other.2) ∈ fields from key ▸ other_member)
      rw [Fields.find?_of_mem distinct (show (field.1, field.2) ∈ fields from member)] at found
      exact congrArg some (Prod.ext key (Option.some.inj found).symm)

theorem distinct_fieldsOf (status spec : Fields) : (fieldsOf status spec).Distinct :=
  .merge (.merge .nil spec) status

/-- The fields of a request are those of the desired state in their order, with the values of the observed
state in their places, and then the new fields of the observed state. -/
theorem fieldsOf_eq_updated (spec_distinct : spec.Distinct) (distinct : status.Distinct)
    (named : status.Named) : fieldsOf status spec = spec.updated status := by
  rw [fieldsOf, Fields.merge_eq_append (show Fields.Distinct ([] ++ spec) from spec_distinct)]
  exact Fields.merge_eq_updated spec_distinct distinct named

theorem mem_fieldsOf {value : Value} (distinct : status.Distinct) (found : status.get? name = some value) :
    (.text name, value) ∈ fieldsOf status spec := by
  refine Fields.mem_of_get? ?_
  rw [fieldsOf, Fields.get?_merge distinct, found]
  rfl

theorem text_mem_keys_fieldsOf :
    .text name ∈ (fieldsOf status spec).map Prod.fst ↔ .text name ∈ (spec ++ status).map Prod.fst := by
  simp only [fieldsOf, Fields.text_mem_keys_merge, List.map_append, List.mem_append, List.map_nil,
    List.not_mem_nil, false_or]

/-- A request is built that holds the fields of both states, and, where they have their own names in the
backend, each field of the observed state with its value. -/
def BindsFields (call : Call) (status spec : Fields) : Prop :=
  ∃ request, call.request status spec = .ok request ∧ call.Binds (fieldsOf status spec) request ∧
    (status.Distinct → call.Separates (fieldsOf status spec) →
      ∀ name value, status.get? name = some value →
        call.Places ((call.renames.get? name).getD name) value
          (request.under ((call.renames.get? name).getD name)))

/-- A request holds under each name what the last of the fields with the name tells.  It is built exactly
when no field that becomes a text is an infinite or undefined number. -/
theorem bindsFields_iff (call : Call) (status spec : Fields) :
    (spec.Distinct → status.Distinct → status.Named → fieldsOf status spec = spec.updated status) ∧
      (call.BindsFields status spec ↔
        ∀ field ∈ fieldsOf status spec, call.TakesText field.1 → field.2.IsFinite) := by
  refine ⟨fieldsOf_eq_updated, ?_⟩
  constructor
  · rintro ⟨request, built, -⟩
    exact (exists_foldlM_iff .empty).mp ⟨request, built⟩
  · intro finite
    obtain ⟨request, built⟩ := (exists_foldlM_iff .empty).mpr finite
    have binds : call.Binds (fieldsOf status spec) request := binds_of_foldlM built
    refine ⟨request, built, binds, fun distinct separate name value found => ?_⟩
    have member : (.text name, value) ∈ fieldsOf status spec := mem_fieldsOf distinct found
    have last := lastNamed_of_mem (distinct_fieldsOf status spec) member rfl fun other mem named =>
      separate other mem _ member named
    have own := binds ((call.renames.get? name).getD name)
    rw [last] at own
    exact own

/-- The call of an operation with a path parameter, a query parameter and a field of the body, where the
path parameter also goes by another name. -/
def itemCall : Call :=
  { action := .update, kind := .put, method := "PUT", path := "/repos/\x7bid\x7d", pathNames := ["id"]
    queryNames := ["page"], bodyNames := [.text "name"], identifiers := ["id"]
    renames := [("repoId", "id")] }

/-- A desired state in which two fields have one name in the backend. -/
def wantedItem : Fields :=
  [(.text "id", .text "1"), (.text "name", .text "wanted"), (.text "repoId", .text "42")]

/-- An observed state with a field of the desired state and a new one. -/
def shownItem : Fields :=
  [(.text "name", .text "shown"), (.text "page", .int 2)]

/-- The value of the observed state stands in the place of the desired one, and the new field follows. -/
theorem bindsFields_item :
    fieldsOf shownItem wantedItem =
        [(.text "id", .text "1"), (.text "name", .text "shown"), (.text "repoId", .text "42"),
          (.text "page", .int 2)] ∧
      itemCall.BindsFields shownItem wantedItem := by
  obtain ⟨order, binds⟩ := bindsFields_iff itemCall shownItem wantedItem
  refine ⟨order ?_ ?_ ?_, binds.mpr ?_⟩
  · simp [wantedItem, Fields.Distinct, Scalar.sameKey, Scalar.equalBy]
  · simp [shownItem, Fields.Distinct, Scalar.sameKey, Scalar.equalBy]
  · simp [shownItem, Fields.Named]
  · simp [fieldsOf, shownItem, wantedItem, Fields.merge, Fields.put, Scalar.sameKey, Scalar.equalBy,
      Value.IsFinite]

/-- A desired state in which the first of two fields with one name is an infinite number. -/
def overflowingItem : Fields :=
  [(.text "id", .float (.ofBits 0x7FF0000000000000)), (.text "repoId", .text "42")]

/-- The infinite number stops the request, although the last field with the name is a text. -/
theorem not_bindsFields_overflowing :
    itemCall.lastNamed "id" (fieldsOf [] overflowingItem) = some (.text "repoId", .text "42") ∧
      ¬itemCall.BindsFields [] overflowingItem := by
  refine ⟨rfl, ?_⟩
  rintro ⟨request, built, -⟩
  have failed : itemCall.request [] overflowingItem = .error (.shape .infiniteWhole) := rfl
  rw [failed] at built
  contradiction

end Call

end Reconciler
