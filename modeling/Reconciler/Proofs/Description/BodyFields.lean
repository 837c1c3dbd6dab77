import Mathlib.Data.List.Perm.Subperm
import Reconciler.Description.Operation
import Reconciler.Proofs.Computation
import Reconciler.Proofs.Description.References
import Reconciler.Proofs.Value.Equality

/-!
# The fields of a body

The schema of a body is composed of parts, each of which can be a reference and can be composed in turn.
Where no schema is a part of itself, the fields of the body are the properties of all schemas that are
reached.  The bound on the depth is then never used up: the schemas on the way to a part are different
nodes of the document.
-/

namespace Reconciler.Description

open Relation

variable {d : Description} {schema part node target : Value} {fields : Fields} {key : Scalar}
  {method path : String}

/-! ## Members of a declaration -/

/-- The member is a map, or is absent or empty. -/
def MapUnder (fields : Fields) (name : String) : Prop :=
  ∀ value, fields.get? name = some value → value.isBlank = true ∨ ∃ inner, value = .map inner

/-- The member is a list, or is absent or empty. -/
def ListUnder (fields : Fields) (name : String) : Prop :=
  ∀ value, fields.get? name = some value → value.isBlank = true ∨ ∃ items, value = .list items

/-- The entries of a member, none of one that is no map. -/
def entriesUnder (fields : Fields) (name : String) : Fields :=
  ((fields.get? name).bind Value.fields?).getD []

/-- The items of a member, none of one that is no list. -/
def itemsUnder (fields : Fields) (name : String) : List Value :=
  ((fields.get? name).bind Value.items?).getD []

theorem MapUnder.orElse_eq {name : String} (shaped : MapUnder fields name) :
    ((fields.get? name).getD .null).orElse (.map []) = .map (entriesUnder fields name) := by
  unfold entriesUnder
  cases found : fields.get? name with
  | none => rfl
  | some value =>
      obtain blank | ⟨inner, rfl⟩ := shaped value found
      · cases value <;> simp_all [Value.orElse, Value.isBlank, Value.fields?]
      · cases inner <;> rfl

theorem ListUnder.listed_eq {name : String} (shaped : ListUnder fields name) :
    listed fields name = .ok (itemsUnder fields name) := by
  unfold listed itemsUnder
  cases found : fields.get? name with
  | none => rfl
  | some value =>
      obtain blank | ⟨items, rfl⟩ := shaped value found
      · cases value <;> simp_all [Value.orElse, Value.isBlank, Value.items?, Value.elements]
      · cases items <;> rfl

theorem has_entriesUnder {name : String} :
    Fields.has key (entriesUnder fields name) = true ↔
      ∃ own : Fields, fields.get? name = some (.map own) ∧ own.has key = true := by
  unfold entriesUnder
  cases fields.get? name with
  | none => simp [Fields.has, Fields.find?]
  | some value => cases value <;> simp [Value.fields?, Fields.has, Fields.find?]

theorem mem_itemsUnder {name : String} :
    part ∈ itemsUnder fields name ↔ ∃ items, fields.get? name = some (.list items) ∧ part ∈ items := by
  unfold itemsUnder
  cases fields.get? name with
  | none => simp
  | some value => cases value <;> simp [Value.items?]

/-! ## Sets of keys -/

theorem any_union (keys others : List Scalar) :
    (union keys others).any (·.sameKey key) =
      (keys.any (·.sameKey key) || others.any (·.sameKey key)) := by
  induction others generalizing keys with
  | nil => simp [union]
  | cons other rest ih =>
      rw [show union keys (other :: rest) =
        union (if keys.any (·.sameKey other) then keys else keys ++ [other]) rest from rfl, ih]
      split
      next known =>
        obtain ⟨own, mem, same⟩ := List.any_eq_true.mp known
        have held (again : other.sameKey key = true) : keys.any (·.sameKey key) = true :=
          List.any_eq_true.mpr ⟨own, mem, Scalar.sameKey_trans same again⟩
        cases again : other.sameKey key with
        | false => simp [again]
        | true => simp [again, held again]
      · simp [Bool.or_assoc]

theorem any_foldl_union (keys : List Scalar) (parts : List (List Scalar)) :
    (parts.foldl union keys).any (·.sameKey key) =
      (keys.any (·.sameKey key) || parts.any fun names => names.any (·.sameKey key)) := by
  induction parts generalizing keys with
  | nil => simp
  | cons names rest ih => rw [List.foldl_cons, ih, any_union, List.any_cons, Bool.or_assoc]

/-! ## Nodes that are reached -/

/-- The nodes below some values are no more than the values have parts. -/
theorem exists_nodes (stack : List Value) :
    ∃ nodes : List Value, nodes.length ≤ Value.sizeItems stack ∧
      ∀ top ∈ stack, ∀ node, Within top node → node ∈ nodes := by
  induction stack using walkReferences.induct with
  | case1 => exact ⟨[], le_rfl, by simp⟩
  | case2 top stack ih =>
      obtain ⟨nodes, few, all⟩ := ih
      refine ⟨top :: nodes, ?_, ?_⟩
      · have smaller := sizeItems_children top
        rw [Value.sizeItems_append] at few
        rw [List.length_cons, Value.sizeItems]
        omega
      · intro other mem node within
        obtain rfl | mem := List.mem_cons.mp mem
        · obtain rfl | ⟨child, mem, within⟩ := within_iff.mp within
          · exact List.mem_cons_self
          · exact List.mem_cons_of_mem _
              (all child (List.mem_append_left _ (List.mem_reverse.mpr mem)) node within)
        · exact List.mem_cons_of_mem _ (all other (List.mem_append_right _ mem) node within)

theorem IsNode.find? (own : d.IsNode (.map fields)) (found : fields.find? key = some node) :
    d.IsNode node :=
  own.tail (mem_children_of_find? found)

theorem IsNode.derefFrom {bound : Nat} {seen : List Value} (own : d.IsNode node)
    (led : derefFrom d seen node bound = .ok target) : d.IsNode target := by
  induction bound generalizing node seen with
  | zero => contradiction
  | succ bound ih =>
      rw [Description.derefFrom] at led
      split at led
      · obtain rfl := Except.ok.inj led
        exact own
      · split at led
        · contradiction
        · contradiction
        · split at led
          · contradiction
          · split at led
            · contradiction
            next found => exact ih (isNode_of_resolve found) led

theorem IsNode.deref (own : d.IsNode node) (led : d.deref node = .ok target) : d.IsNode target := by
  unfold Description.deref at led
  split at led
  · obtain rfl := Except.ok.inj led
    exact own
  · exact own.derefFrom led

/-! ## Composed schemas -/

/-- The schema is composed of the part, among others. -/
def Includes (d : Description) (schema part : Value) : Prop :=
  ∃ (fields : Fields) (parts : List Value), d.deref schema = .ok (.map fields) ∧
    fields.get? "allOf" = some (.list parts) ∧ part ∈ parts

/-- The schema itself has the property. -/
def HasProperty (d : Description) (schema : Value) (key : Scalar) : Prop :=
  ∃ fields own : Fields, d.deref schema = .ok (.map fields) ∧
    fields.get? "properties" = some (.map own) ∧ own.has key = true

/-- The schema, or one of those that it is composed of, has the property. -/
def Offers (d : Description) (schema : Value) (key : Scalar) : Prop :=
  ∃ part, ReflTransGen d.Includes schema part ∧ d.HasProperty part key

/-- The references of the schema lead to a node, in which the properties are a map and the parts a list. -/
def Readable (d : Description) (schema : Value) : Prop :=
  ∃ target, d.deref schema = .ok target ∧
    ∀ fields, target = .map fields → MapUnder fields "properties" ∧ ListUnder fields "allOf"

/-- All schemas that the schema is composed of can be read, and none is a part of itself. -/
structure Layered (d : Description) (schema : Value) : Prop where
  /-- The schemas can be read. -/
  readable : ∀ part, ReflTransGen d.Includes schema part → d.Readable part
  /-- The steps to the parts never come back. -/
  acyclic : ∀ part, ReflTransGen d.Includes schema part → ¬TransGen d.Includes part part

theorem hasProperty_iff (led : d.deref schema = .ok (.map fields)) :
    d.HasProperty schema key ↔ Fields.has key (entriesUnder fields "properties") = true := by
  simp [HasProperty, led, has_entriesUnder]

theorem includes_iff (led : d.deref schema = .ok (.map fields)) :
    d.Includes schema part ↔ part ∈ itemsUnder fields "allOf" := by
  simp [Includes, led, mem_itemsUnder]

theorem Layered.of_includes (layered : d.Layered schema) (includes : d.Includes schema part) :
    d.Layered part where
  readable other chain := layered.readable other (chain.head includes)
  acyclic other chain := layered.acyclic other (chain.head includes)

/-- A schema that can be read is layered when its parts are. -/
theorem layered_iff :
    d.Layered schema ↔ d.Readable schema ∧ ∀ part, d.Includes schema part → d.Layered part := by
  constructor
  · exact fun layered => ⟨layered.readable schema .refl, fun _ includes => layered.of_includes includes⟩
  · rintro ⟨readable, parts⟩
    constructor
    · intro other chain
      obtain rfl | ⟨part, includes, chain⟩ := chain.cases_head
      · exact readable
      · exact (parts part includes).readable other chain
    · intro other chain circle
      obtain rfl | ⟨part, includes, chain⟩ := chain.cases_head
      · -- The circle leads through a part, from which the schema is reached again.
        obtain ⟨part, includes, back⟩ := TransGen.head'_iff.mp circle
        exact (parts part includes).acyclic schema back circle
      · exact (parts part includes).acyclic other chain circle

theorem layered_of_deref (led : d.deref schema = .ok (.map fields)) (own : MapUnder fields "properties")
    (composed : ListUnder fields "allOf") (parts : ∀ part ∈ itemsUnder fields "allOf", d.Layered part) :
    d.Layered schema := by
  refine layered_iff.mpr ⟨⟨_, led, ?_⟩, fun part includes => parts part ((includes_iff led).mp includes)⟩
  rintro _ ⟨⟩
  exact ⟨own, composed⟩

theorem IsNode.of_includes (own : d.IsNode schema) (includes : d.Includes schema part) : d.IsNode part := by
  obtain ⟨fields, parts, led, found, mem⟩ := includes
  exact ((own.deref led).find? found).tail mem

theorem offers_iff :
    d.Offers schema key ↔
      d.HasProperty schema key ∨ ∃ part, d.Includes schema part ∧ d.Offers part key := by
  constructor
  · rintro ⟨part, chain, has⟩
    obtain rfl | ⟨next, includes, chain⟩ := chain.cases_head
    · exact .inl has
    · exact .inr ⟨next, includes, part, chain, has⟩
  · rintro (has | ⟨next, includes, part, chain, has⟩)
    · exact ⟨schema, .refl, has⟩
    · exact ⟨part, chain.head includes, has⟩

theorem not_offers (led : d.deref schema = .ok target) (unmapped : ∀ fields, target ≠ .map fields) :
    ¬d.Offers schema key := by
  rw [offers_iff]
  rintro (⟨fields, -, led', -⟩ | ⟨part, ⟨fields, -, led', -⟩, -⟩)
  all_goals exact unmapped fields (Except.ok.inj (led.symm.trans led'))

theorem any_iff_exists_offers {items : List Value} {parts : List (List Scalar)}
    (offered : List.Forall₂ (fun part names => ∀ key : Scalar,
      names.any (·.sameKey key) = true ↔ d.Offers part key) items parts) :
    (parts.any fun names => names.any (·.sameKey key)) = true ↔
      ∃ part ∈ items, d.Offers part key := by
  induction offered with
  | nil => simp
  | cons first _ ih => rw [List.any_cons, Bool.or_eq_true, first, ih, List.exists_mem_cons_iff]

/-- The search for the properties of a schema finds those that the schema offers. -/
def Finds (d : Description) (schema : Value) (bound : Nat) : Prop :=
  ∃ names, d.properties schema bound = .ok names ∧
    ∀ key, names.any (·.sameKey key) = true ↔ d.Offers schema key

/-- The properties of a schema are found when those of its parts are. -/
theorem finds_of_parts {bound : Nat} (led : d.deref schema = .ok (.map fields))
    (own : MapUnder fields "properties") (composed : ListUnder fields "allOf")
    (each : ∀ part, d.Includes schema part → d.Finds part bound) : d.Finds schema (bound + 1) := by
  obtain ⟨parts, found, offered⟩ := exists_mapM fun part mem => each part ((includes_iff led).mpr mem)
  refine ⟨parts.foldl union (union [] ((entriesUnder fields "properties").map Prod.fst)), ?_, ?_⟩
  · simp only [properties, led, own.orElse_eq, composed.listed_eq, found, Value.keys, bind, Except.bind]
    rfl
  · intro key
    rw [any_foldl_union, any_union, Bool.or_eq_true, any_iff_exists_offers offered, offers_iff,
      hasProperty_iff led, Fields.has_eq_any]
    simp only [includes_iff led, List.any_nil, Bool.false_or, List.any_map]
    rfl

/-- The properties are found as long as the bound exceeds the number of nodes that are not on the way to
the schema. -/
theorem finds_of_layered {nodes : List Value} (all : ∀ node, d.IsNode node → node ∈ nodes)
    (outer : List Value) {bound : Nat} (own : d.IsNode schema) (layered : d.Layered schema)
    (distinct : outer.Nodup)
    (above : ∀ other ∈ outer, d.IsNode other ∧ TransGen d.Includes other schema)
    (enough : nodes.length < outer.length + bound) : d.Finds schema bound := by
  induction bound generalizing schema outer with
  | zero =>
      -- The schemas on the way are different nodes, so that the bound is never used up.
      have few : outer.length ≤ nodes.length :=
        (List.subperm_of_subset distinct fun other mem => all other (above other mem).1).length_le
      omega
  | succ bound ih =>
      obtain ⟨target, led, shaped⟩ := layered.readable schema .refl
      cases target with
      | map fields =>
          obtain ⟨own_shaped, parts_shaped⟩ := shaped fields rfl
          have fresh : schema ∉ outer := fun mem => layered.acyclic schema .refl (above schema mem).2
          refine finds_of_parts led own_shaped parts_shaped fun part includes => ?_
          refine ih (schema :: outer) (own.of_includes includes) (layered.of_includes includes)
            (List.nodup_cons.mpr ⟨fresh, distinct⟩) ?_ (by rw [List.length_cons]; omega)
          rw [List.forall_mem_cons]
          exact ⟨⟨own, .single includes⟩, fun other mem =>
            ⟨(above other mem).1, (above other mem).2.tail includes⟩⟩
      | scalar _ | list _ =>
          refine ⟨[], ?_, fun key => by simp [not_offers led]⟩
          rw [properties, led]
          rfl

/-! ## Bodies -/

/-- The value belongs to the document, or is empty. -/
def Given (d : Description) (value : Value) : Prop :=
  value.isBlank = true ∨ d.IsNode value

theorem reference?_of_isBlank (blank : node.isBlank = true) : reference? node = none := by
  cases node with
  | map entries => simp_all [Value.isBlank, reference?, Value.get?, Value.fields?, Fields.get?, Fields.find?]
  | _ => rfl

namespace Given

variable {outer inner : Value} {name : String}

theorem isNode_of_get? (given : d.Given outer) (found : outer.get? name = some inner) :
    d.IsNode inner := by
  cases outer with
  | map entries =>
      obtain blank | own := given
      · simp_all [Value.isBlank, Value.get?, Value.fields?, Fields.get?, Fields.find?]
      · exact own.find? found
  | _ => contradiction

theorem getD (given : d.Given (.map fields)) (name : String) :
    d.Given ((fields.get? name).getD .null) := by
  cases found : fields.get? name with
  | none => exact .inl rfl
  | some inner => exact .inr (given.isNode_of_get? found)

theorem member (given : d.Given outer) (read : outer.member name = .ok inner) : d.Given inner := by
  cases outer with
  | map entries =>
      obtain rfl := Except.ok.inj read
      exact given.getD name
  | _ => contradiction

theorem orElse (given : d.Given outer) : d.Given (outer.orElse (.map [])) := by
  unfold Value.orElse
  split
  · exact .inl rfl
  · exact given

theorem deref (given : d.Given node) (led : d.deref node = .ok target) : d.Given target := by
  obtain blank | own := given
  · rw [Description.deref, reference?_of_isBlank blank] at led
    obtain rfl := Except.ok.inj led
    exact .inl blank
  · exact .inr (own.deref led)

end Given

theorem given_pathItem {item : Fields} (found : d.pathItem method path = .ok item) :
    d.Given (.map item) := by
  obtain ⟨paths, paths_read, found⟩ := ok_of_bind found
  obtain ⟨entry, entry_read, found⟩ := ok_of_bind found
  obtain ⟨target, led, found⟩ := ok_of_bind found
  obtain ⟨member, member_read, paths_eq⟩ := ok_of_bind paths_read
  have whole : d.Given d.document := .inr .refl
  have given_paths : d.Given paths := Except.ok.inj paths_eq ▸ (whole.member member_read).orElse
  have given := (given_paths.member entry_read).deref led
  split at found
  · obtain rfl := Except.ok.inj found
    exact given
  · contradiction

theorem given_operation {operation : Fields} (declared : d.operation method path = .ok operation) :
    d.Given (.map operation) := by
  obtain ⟨item, item_found, found⟩ := ok_of_bind declared
  split at found
  next read =>
    obtain rfl := Except.ok.inj found
    exact .inr ((given_pathItem item_found).isNode_of_get? read)
  · contradiction

/-- The schema that a body declares for its media type. -/
def bodySchema? (body : Value) : Option Value :=
  (body.get? "content").bind fun content => (content.get? jsonMediaType).bind (·.get? "schema")

theorem Given.isNode_of_bodySchema? {body : Value} (given : d.Given body)
    (found : bodySchema? body = some schema) : d.IsNode schema := by
  obtain ⟨content, content_found, found⟩ := Option.bind_eq_some_iff.mp found
  obtain ⟨media, media_found, found⟩ := Option.bind_eq_some_iff.mp found
  have own_content : d.Given content := .inr (given.isNode_of_get? content_found)
  have own_media : d.Given media := .inr (own_content.isNode_of_get? media_found)
  exact own_media.isNode_of_get? found

theorem get?_of_entriesUnder {name inner : String} :
    Fields.get? (entriesUnder fields name) inner = (fields.get? name).bind (·.get? inner) := by
  unfold entriesUnder
  cases fields.get? name with
  | none => rfl
  | some value => cases value <;> rfl

/-- The fields of a body are the properties of its schema. -/
theorem bodyFields_eq {operation : Fields} {body : Value} (declared : d.operation method path = .ok operation)
    (led : d.deref ((operation.get? "requestBody").getD .null) = .ok body)
    (shaped : ∀ fields, body = .map fields → MapUnder fields "content") :
    d.bodyFields method path =
      match bodySchema? body with
      | some schema => d.properties schema (d.document.size + 2)
      | none => .ok [] := by
  simp only [bodyFields, declared, led, bind, Except.bind]
  cases body with
  | map fields =>
      have schema_eq : bodySchema? (.map fields) =
          (Fields.get? (entriesUnder fields "content") jsonMediaType).bind (·.get? "schema") := by
        rw [get?_of_entriesUnder, Option.bind_assoc]
        rfl
      dsimp only
      rw [(shaped fields rfl).orElse_eq, schema_eq, Value.member]
      cases Fields.get? (entriesUnder fields "content") jsonMediaType with
      | none => rfl
      | some media =>
          cases media with
          | map declaration =>
              change d.properties ((Fields.get? declaration "schema").getD .null) _ =
                match Fields.get? declaration "schema" with
                | some schema => _
                | none => _
              cases Fields.get? declaration "schema" <;> rfl
          | _ => rfl
  | _ => rfl

/-- The fields of the operation's body are the properties that the schema of the body offers, and there
are none without a schema. -/
def StatesFields (d : Description) (method path : String) (body : Value) : Prop :=
  ∃ names, d.bodyFields method path = .ok names ∧ (bodySchema? body = none → names = []) ∧
    ∀ schema, bodySchema? body = some schema →
      ∀ key, names.any (·.sameKey key) = true ↔ d.Offers schema key

/-- A declared operation whose body can be found, with a map of media types where it has any, and whose
schema is composed without circles of schemas that can be read, has the properties of all these schemas as
the fields of its body. -/
theorem bodyFields_offered {operation : Fields} {body : Value}
    (declared : d.operation method path = .ok operation)
    (led : d.deref ((operation.get? "requestBody").getD .null) = .ok body)
    (shaped : ∀ fields, body = .map fields → MapUnder fields "content")
    (layered : ∀ schema, bodySchema? body = some schema → d.Layered schema) :
    d.StatesFields method path body := by
  have given : d.Given body := ((given_operation declared).getD _).deref led
  unfold StatesFields
  rw [bodyFields_eq declared led shaped]
  cases found : bodySchema? body with
  | none => exact ⟨[], rfl, fun _ => rfl, by simp⟩
  | some schema =>
      obtain ⟨nodes, few, all⟩ := exists_nodes [d.document]
      have own : d.IsNode schema := given.isNode_of_bodySchema? found
      have enough : nodes.length < ([] : List Value).length + (d.document.size + 2) := by
        simp only [Value.sizeItems, List.length_nil] at few ⊢
        omega
      obtain ⟨names, listed, offered⟩ := finds_of_layered (all d.document List.mem_cons_self) [] own
        (layered schema found) List.nodup_nil (by simp) enough
      exact ⟨names, listed, by simp, fun _ same => Option.some.inj same ▸ offered⟩

/-- The declaration of a schema with one property. -/
def declaring (name : String) : Fields :=
  [(.text "properties", .map [(.text name, .map [])])]

/-- The declaration of a schema that is composed of one elsewhere and one of its own. -/
def repoDeclaration : Fields :=
  (.text "allOf", .list [pointer "#/base", .map (declaring "owner")]) :: declaring "private"

/-- The declaration of an operation with a body. -/
def postOperation (content : Value) : Fields :=
  [(.text "requestBody", .map [(.text "content", content)])]

/-- A description with the operation and the schemas. -/
def posting (content : Value) : Description :=
  ⟨.map [(.text "paths", .map [(.text "/repos", .map [(.text "post", .map (postOperation content))])]),
    (.text "repo", .map repoDeclaration), (.text "base", .map (declaring "name"))], ""⟩

/-- The schema is the one of the media type. -/
def repoContent : Value :=
  .map [(.text jsonMediaType, .map [(.text "schema", pointer "#/repo")])]

theorem layered_declaring {name : String} (led : d.deref schema = .ok (.map (declaring name))) :
    d.Layered schema := by
  refine layered_of_deref led (fun _ found => .inr ⟨_, (Option.some.inj found).symm⟩)
    (fun _ found => nomatch found) ?_
  change ∀ part ∈ [], d.Layered part
  simp

section Posting

variable (content : Value)

theorem deref_repo : (posting content).deref (pointer "#/repo") = .ok (.map repoDeclaration) := rfl

theorem deref_base : (posting content).deref (pointer "#/base") = .ok (.map (declaring "name")) := rfl

theorem layered_posting : (posting content).Layered (pointer "#/repo") := by
  refine layered_of_deref (deref_repo content) (fun _ found => .inr ⟨_, (Option.some.inj found).symm⟩)
    (fun _ found => .inr ⟨_, (Option.some.inj found).symm⟩) ?_
  change ∀ part ∈ [pointer "#/base", .map (declaring "owner")], (posting content).Layered part
  rw [List.forall_mem_cons, List.forall_mem_singleton]
  exact ⟨layered_declaring (deref_base content), layered_declaring rfl⟩

end Posting

/-- The fields of a body are those of the schema and of both its parts. -/
theorem bodyFields_offered_repo :
    ∃ names, (posting repoContent).bodyFields "POST" "/repos" = .ok names ∧
      names.any (·.sameKey (.text "private")) = true ∧ names.any (·.sameKey (.text "owner")) = true ∧
        names.any (·.sameKey (.text "name")) = true := by
  have declared : (posting repoContent).operation "POST" "/repos" = .ok (postOperation repoContent) := rfl
  have shaped : ∀ fields, .map [(.text "content", repoContent)] = Value.map fields →
      MapUnder fields "content" := by
    rintro _ ⟨⟩ _ found
    exact .inr ⟨_, (Option.some.inj found).symm⟩
  have layered : ∀ schema, bodySchema? (.map [(.text "content", repoContent)]) = some schema →
      (posting repoContent).Layered schema := by
    rintro _ ⟨⟩
    exact layered_posting repoContent
  obtain ⟨names, listed, -, offered⟩ := bodyFields_offered declared rfl shaped layered
  have led := deref_repo repoContent
  have base : (posting repoContent).Includes (pointer "#/repo") (pointer "#/base") :=
    ⟨_, _, led, rfl, List.mem_cons_self⟩
  have owner : (posting repoContent).Includes (pointer "#/repo") (.map (declaring "owner")) :=
    ⟨_, _, led, rfl, List.mem_cons_of_mem _ List.mem_cons_self⟩
  refine ⟨names, listed, ?_, ?_, ?_⟩
  · exact (offered _ rfl _).mpr ⟨_, .refl, _, _, led, rfl, rfl⟩
  · exact (offered _ rfl _).mpr ⟨_, .single owner, _, _, rfl, rfl, rfl⟩
  · exact (offered _ rfl _).mpr ⟨_, .single base, _, _, deref_base repoContent, rfl, rfl⟩

/-- Where the media types are listed and not mapped, no fields are stated, not even that there are none. -/
theorem not_statesFields_listed :
    let content : Value := .list [.text jsonMediaType]
    let body : Value := .map [(.text "content", content)]
    (posting content).operation "POST" "/repos" = .ok (postOperation content) ∧
      (posting content).deref body = .ok body ∧ bodySchema? body = none ∧
      ¬(posting content).StatesFields "POST" "/repos" body := by
  refine ⟨rfl, rfl, rfl, ?_⟩
  rintro ⟨names, listed, -⟩
  have failed : (posting (.list [.text jsonMediaType])).bodyFields "POST" "/repos" =
      .error (.shape (.noMember "list" "get")) := rfl
  rw [failed] at listed
  contradiction

end Reconciler.Description
