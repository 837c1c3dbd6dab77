import Reconciler.Proofs.Backend.Outcomes
import Reconciler.Proofs.Session.Lookups
import Reconciler.Proofs.Value.Access

/-!
# Definitions beside each other

The definition of a document is picked from a list that all kinds share.  A definition of another kind does
not matter to the document, and neither does the order of the list, as long as the desired states in it are
maps.  The first one that is not is a failure for every document, whatever else is listed.
-/

namespace Reconciler

/-- A world whose cluster lists certain definitions, and which is like another world apart from that. -/
structure Stocked (ω : Type) where
  /-- The other world. -/
  world : ω
  /-- What a list states beside its items. -/
  header : Fields
  /-- The definitions in the order of the list. -/
  definitions : List Fields

namespace Stocked

/-- The list of the definitions. -/
def listing {ω : Type} (stocked : Stocked ω) : Value :=
  .map ((.text "items", .list (stocked.definitions.map .map)) :: stocked.header)

/-- What the cluster answers, where the other world has an answer of its own. -/
def told {ω α : Type} (stocked : Stocked ω) : ClusterCall α → Except Failure α → Except Failure α
  | .list resource _, own => if resource = Definition.resource then .ok stocked.listing else own
  | _, own => own

end Stocked

instance {ω : Type} [World ω] : World (Stocked ω) where
  cluster call stocked :=
    (stocked.told call (World.cluster call stocked.world).1,
      { stocked with world := (World.cluster call stocked.world).2 })
  wire call stocked :=
    ((World.wire call stocked.world).1,
      { stocked with world := (World.wire call stocked.world).2 })
  chart call stocked :=
    ((World.chart call stocked.world).1,
      { stocked with world := (World.chart call stocked.world).2 })
  file stocked := World.file stocked.world
  wallClock stocked := World.wallClock stocked.world
  steadyClock stocked := World.steadyClock stocked.world
  freshId stocked :=
    ((World.freshId stocked.world).1, { stocked with world := (World.freshId stocked.world).2 })

/-- The worlds differ in their definitions alone. -/
def Stocked.Beside {ω : Type} (s t : Stocked ω) : Prop :=
  s.world = t.world

theorem Stocked.looksUpAlike {ω : Type} [World ω] : LooksUpAlike (Stocked.Beside (ω := ω)) := by
  intro s t same α call looks
  have answers (stocked : Stocked ω) :
      (World.cluster call stocked).1 = (World.cluster call stocked.world).1 := by
    cases call <;> first | rfl | exact absurd looks Bool.false_ne_true
  have left (stocked : Stocked ω) :
      (World.cluster call stocked).2.world = (World.cluster call stocked.world).2 := rfl
  rw [answers, answers, same, Stocked.Beside, left, left, same]
  exact ⟨rfl, rfl⟩

namespace Definition

/-! ## What a definition describes -/

/-- The desired state of a definition is a map, or it has none. -/
def Readable (definition : Fields) : Prop :=
  ∀ spec, definition.get? "spec" = some spec → ∃ fields, spec = .map fields

/-- The definition describes a kind of a group. -/
def Describes (group kind : String) (definition : Fields) : Prop :=
  ∃ spec described, definition.get? "spec" = some (.map spec) ∧
    Fields.get? spec "resource" = some (.map described) ∧
    Fields.get? spec "resourceGroup" = some (.text group) ∧
    Fields.get? described "kind" = some (.text kind)

/-- The definition does not describe the kind of a document. -/
def Foreign (doc : Document) (definition : Fields) : Prop :=
  ∀ kind, doc.groupVersionKind = .ok kind → ¬Describes kind.group doc.kind definition

section Describing

variable {group kind : String} {definition : Fields}

theorem foreign_of_unreadable {doc : Document} {got : Value}
    (stated : definition.get? "spec" = some got) (shape : ∀ fields, got ≠ .map fields) :
    Foreign doc definition := by
  rintro kind - ⟨spec, -, described, -⟩
  exact shape spec (Option.some.inj (stated.symm.trans described))

theorem specFields_ofObject (definition : Fields) :
    (Document.ofObject (.map definition)).specFields =
      match definition.get? "spec" with
      | none => .ok []
      | some (.map spec) => .ok spec
      | some got => .error (.fieldType ["spec"] "map" got) := by
  unfold Document.specFields Document.topLevelFields Document.map Document.field Document.ofObject
  rw [Value.follow_map]
  cases definition.get? "spec" with
  | none => rfl
  | some got => cases got <;> rfl

theorem describes_of_unreadable {got : Value} (stated : definition.get? "spec" = some got)
    (shape : ∀ fields, got ≠ .map fields) :
    describes group kind (.ofObject (.map definition)) = .error (.fieldType ["spec"] "map" got) := by
  rw [describes, specFields_ofObject, stated]
  cases got with
  | map fields => exact absurd rfl (shape fields)
  | scalar s => rfl
  | list items => rfl

theorem getD_equal_text_iff {fields : Fields} {name text : String} :
    ((fields.get? name).getD .null).equal (.text text) = true ↔ fields.get? name = some (.text text) := by
  rw [Value.equal_text_iff]
  cases fields.get? name <;> simp [Value.null, Value.text]

/-- The desired state of a definition describes a kind by a map of its own. -/
def statesKind (group kind : String) (spec : Fields) : Bool :=
  match spec.get? "resource" with
  | some (.map described) =>
    ((spec.get? "resourceGroup").getD .null).equal (.text group) &&
      ((Fields.get? described "kind").getD .null).equal (.text kind)
  | _ => false

theorem statesKind_iff {spec : Fields} :
    statesKind group kind spec = true ↔
      ∃ described, spec.get? "resource" = some (.map described) ∧
        spec.get? "resourceGroup" = some (.text group) ∧
        Fields.get? described "kind" = some (.text kind) := by
  unfold statesKind
  cases spec.get? "resource" with
  | none => simp
  | some resource =>
      cases resource with
      | map described => simp [getD_equal_text_iff]
      | scalar s => simp
      | list items => simp

theorem describes_of_map {spec : Fields} (stated : definition.get? "spec" = some (.map spec)) :
    describes group kind (.ofObject (.map definition)) = .ok (statesKind group kind spec) := by
  rw [describes, specFields_ofObject, stated, statesKind]
  dsimp only [bind, Except.bind]
  cases spec.get? "resource" with
  | none => rfl
  | some resource => cases resource <;> rfl

/-- Of a definition with a readable desired state it can be told whether it describes a kind. -/
theorem exists_describes (readable : Readable definition) :
    ∃ isMatch, describes group kind (.ofObject (.map definition)) = .ok isMatch ∧
      (isMatch = true ↔ Describes group kind definition) := by
  cases stated : definition.get? "spec" with
  | none =>
      refine ⟨false, ?_, by simp [Describes, stated]⟩
      rw [describes, specFields_ofObject, stated]
      rfl
  | some got =>
      obtain ⟨spec, rfl⟩ := readable got stated
      refine ⟨_, describes_of_map stated, statesKind_iff.trans ?_⟩
      simp [Describes, stated]

end Describing

/-! ## Picking from a list -/

section Picking

variable {group kind : String} {objects other before after : List Document} {object : Document}

/-- It can be told of an object whether it describes a kind. -/
def Told (group kind : String) (object : Document) : Prop :=
  ∃ isMatch, describes group kind object = .ok isMatch

/-- An object that does not match is passed over, wherever it stands. -/
theorem matching_insert (passed : describes group kind object = .ok false) :
    matching group kind (before ++ object :: after) = matching group kind (before ++ after) := by
  induction before with
  | nil =>
      rw [List.nil_append, List.nil_append, matching, passed]
      cases matching group kind after <;> rfl
  | cons first rest ih => rw [List.cons_append, List.cons_append, matching, matching, ih]

/-- The first object that fails ends the search. -/
theorem matching_of_error {failure : Failure} (failed : describes group kind object = .error failure)
    (told : ∀ earlier ∈ before, Told group kind earlier) :
    matching group kind (before ++ object :: after) = .error failure := by
  induction before with
  | nil =>
      rw [List.nil_append, matching, failed]
      rfl
  | cons first rest ih =>
      obtain ⟨⟨isMatch, told_first⟩, told_rest⟩ := List.forall_mem_cons.mp told
      rw [List.cons_append, matching, told_first, ih told_rest]
      rfl

/-- The object is told to match. -/
def isMatch (group kind : String) (object : Document) : Bool :=
  (describes group kind object).toOption.getD false

theorem matching_eq_filter (told : ∀ object ∈ objects, Told group kind object) :
    matching group kind objects = .ok (objects.filter (isMatch group kind)) := by
  induction objects with
  | nil => rfl
  | cons first rest ih =>
      obtain ⟨⟨answer, told_first⟩, told_rest⟩ := List.forall_mem_cons.mp told
      have own : isMatch group kind first = answer := by
        rw [isMatch, told_first]
        rfl
      rw [matching, told_first, ih told_rest, List.filter_cons, own]
      rfl

theorem mergeSort_of_perm {names others : List String} (same : others.Perm names) :
    others.mergeSort (· ≤ ·) = names.mergeSort (· ≤ ·) := by
  have trans (a b c : String) (first : decide (a ≤ b) = true) (second : decide (b ≤ c) = true) :
      decide (a ≤ c) = true :=
    decide_eq_true (String.le_trans (of_decide_eq_true first) (of_decide_eq_true second))
  have total (a b : String) : (decide (a ≤ b) || decide (b ≤ a)) = true := by
    simpa using String.le_total a b
  have sorted (names : List String) : (names.mergeSort (· ≤ ·)).Pairwise (· ≤ ·) := by
    simpa using List.pairwise_mergeSort trans total names
  have perm : (others.mergeSort (· ≤ ·)).Perm (names.mergeSort (· ≤ ·)) :=
    ((List.mergeSort_perm _ _).trans same).trans (List.mergeSort_perm _ _).symm
  exact perm.eq_of_pairwise (fun _ _ _ _ => String.le_antisymm) (sorted others) (sorted names)

theorem only_of_several (group : String) (doc first second : Document) (rest : List Document) :
    only group doc (first :: second :: rest) =
      .error (.noReference (.ambiguous group doc.kind
        (((first :: second :: rest).map Document.name).mergeSort (· ≤ ·)))) := rfl

/-- Several objects are reported by their names in alphabetical order. -/
theorem only_perm (group : String) (doc : Document) (same : other.Perm objects) :
    only group doc other = only group doc objects := by
  match objects, other, same.length_eq with
  | [], [], _ => rfl
  | [object], [_], _ => rw [List.perm_singleton.mp same]
  | _ :: _ :: _, _ :: _ :: _, _ =>
      rw [only_of_several, only_of_several, mergeSort_of_perm (same.map Document.name)]

/-- The object that is picked for a document. -/
def picked (group : String) (doc : Document) (objects : List Document) : Except Failure Document := do
  only group doc (← matching group doc.kind objects)

theorem picked_perm {doc : Document} (same : other.Perm objects)
    (told : ∀ object ∈ objects, Told group doc.kind object) :
    picked group doc other = picked group doc objects := by
  have told_other : ∀ object ∈ other, Told group doc.kind object := fun object member =>
    told object (same.mem_iff.mp member)
  rw [picked, picked, matching_eq_filter told, matching_eq_filter told_other]
  exact only_perm group doc (same.filter _)

end Picking

/-! ## The listed objects -/

theorem get?_withDefault {name other : String} (apart : name ≠ other) (fields : Fields) (value : String) :
    (Cluster.withDefault fields name value).get? other = fields.get? other := by
  unfold Cluster.withDefault
  split
  · rfl
  · rw [Fields.get?_set, if_neg apart]

/-- A definition with the version and the kind that it lacks. -/
def completed (apiVersion kind : String) (definition : Fields) : Fields :=
  let versioned := Cluster.withDefault definition "apiVersion" apiVersion
  if kind.isEmpty then versioned else Cluster.withDefault versioned "kind" kind

theorem get?_completed (apiVersion kind : String) (definition : Fields) :
    (completed apiVersion kind definition).get? "spec" = definition.get? "spec" := by
  unfold completed
  split
  · exact get?_withDefault (by decide) _ _
  · rw [get?_withDefault (by decide), get?_withDefault (by decide)]

/-- The kind of the items, as a list with a header states it. -/
def kindOf (header : Fields) : String :=
  Cluster.withoutEnding "List" ((header.get? "kind").getD (.text "")).plain

/-- The document of a definition in a list with a header. -/
def listed (header definition : Fields) : Document :=
  .ofObject (.map (completed (joinVersion resource.group resource.version) (kindOf header) definition))

/-- What is filled in does not matter to what a definition describes. -/
theorem describes_listed (group kind : String) (header definition : Fields) :
    describes group kind (listed header definition) =
      describes group kind (.ofObject (.map definition)) := by
  rw [describes, describes, listed, specFields_ofObject, specFields_ofObject, get?_completed]

theorem documentsOf_listing {ω : Type} (stocked : Stocked ω) :
    Cluster.documentsOf resource stocked.listing =
      .ok (stocked.definitions.map (listed stocked.header)) := by
  have items : (Value.list (stocked.definitions.map Value.map)).orElse (.list []) =
      .list (stocked.definitions.map Value.map) := by
    cases stocked.definitions <;> rfl
  have each (definitions : List Fields) (apiVersion kind : String) :
      (definitions.map Value.map).mapM (Cluster.listedDocument apiVersion kind) =
        .ok (definitions.map fun definition => .ofObject (.map (completed apiVersion kind definition))) := by
    induction definitions with
    | nil => rfl
    | cons first rest ih =>
        rw [List.map_cons, List.mapM_cons, ih]
        rfl
  have stated : stocked.listing.member "items" = .ok (.list (stocked.definitions.map Value.map)) := rfl
  have named : stocked.listing.memberOr "kind" (.text "") =
      .ok ((stocked.header.get? "kind").getD (.text "")) := rfl
  rw [Cluster.documentsOf, stated, named]
  dsimp only [bind, Except.bind]
  rw [items]
  exact each stocked.definitions _ _

section Listing

variable {ω : Type} [World ω]

/-- The session in a world whose cluster lists the definitions. -/
def stock (session : Session ω) (header : Fields) (definitions : List Fields) : Session (Stocked ω) :=
  ⟨⟨session.world, header, definitions⟩, session.telemetry, session.means, session.descriptions,
    session.descriptor⟩

/-- What is found for a document, where the cluster lists the definitions. -/
def found (doc : Document) (session : Session ω) (header : Fields) (definitions : List Fields) :
    Except Failure Definition :=
  answer (ofCluster doc) (stock session header definitions)

variable (session : Session ω) (header : Fields)

theorem answer_list (place : Option String) (definitions : List Fields) :
    answer (Cluster.list resource place) (stock session header definitions) =
      .ok (definitions.map (listed header)) := by
  have told : answer (Work.cluster (.list resource (place.filter fun name => !name.isEmpty)))
      (stock session header definitions) = .ok (Stocked.listing ⟨session.world, header, definitions⟩) := by
    rw [Work.cluster, answer_ask]
    rfl
  rw [Cluster.list, answer_bind, Cluster.answer_metered, told]
  exact (answer_ofExcept _ _).trans (documentsOf_listing _)

theorem related_list (place : Option String) (definitions other : List Fields) :
    Session.Related Stocked.Beside
      (final (Cluster.list resource place) (stock session header definitions))
      (final (Cluster.list resource place) (stock session header other)) := by
  -- Neither the means nor the other world depend on what is listed.
  let view (s : Session (Stocked ω)) : Means × ω := (s.means, s.world.world)
  have counted {metric : Metric} (_ : metric.isOfRetries = false) :
      Keeps view (count metric : Work (Stocked ω) Unit) := fun _ => rfl
  have seen (definitions : List Fields) :
      view (final (Cluster.list resource place) (stock session header definitions)) =
        (session.means, (World.cluster (.list resource (place.filter fun name => !name.isEmpty))
          session.world).2) := by
    rw [Cluster.list, view_final_bind view fun _ => keeps_ofExcept _,
      Cluster.view_metered _ _ _ counted, Work.cluster, final_ask]
    rfl
  have same := (seen definitions).trans (seen other).symm
  exact ⟨congrArg Prod.fst same, congrArg Prod.snd same⟩

/-- What is made of the object that was picked. -/
def conclude (doc : Document) (object : Document) : Work ω Definition := do
  let (url, descriptor) ← ofExcept (parts object)
  let credentials ← Authentication.resolve doc
  pure ⟨url, descriptor, credentials, ← ofExcept doc.isVerbose⟩

theorem respects_conclude {related : ω → ω → Prop} (alike : LooksUpAlike related)
    (doc object : Document) : Respects (Session.Related related) (conclude (ω := ω) doc object) := by
  refine respects_bind (respects_ofExcept _) fun _ => ?_
  refine respects_bind (Authentication.respects_resolve alike doc) fun credentials => ?_
  exact respects_bind (respects_ofExcept _) fun _ => respects_ofExcept (.ok _)

/-- The place in which the definitions for a document are listed. -/
def placeOf (doc : Document) : Option String :=
  if doc.namespace_.isEmpty then none else some doc.namespace_

theorem found_of_error {doc : Document} {failure : Failure}
    (ungrouped : doc.groupVersionKind = .error failure) (definitions : List Fields) :
    found doc session header definitions = .error failure := by
  unfold found ofCluster
  rw [answer_bind, answer_ofExcept, ungrouped]

theorem found_of_kind {doc : Document} {kind : GroupVersionKind}
    (grouped : doc.groupVersionKind = .ok kind) (definitions : List Fields) :
    found doc session header definitions = (do
      let object ← picked kind.group doc (definitions.map (listed header))
      answer (conclude doc object)
        (final (Cluster.list resource (placeOf doc)) (stock session header definitions))) := by
  have picks : (do only kind.group doc (← matching kind.group doc.kind
      (definitions.map (listed header)))) =
      picked kind.group doc (definitions.map (listed header)) := rfl
  unfold found ofCluster
  rw [answer_bind, answer_ofExcept, final_ofExcept, grouped]
  dsimp only
  rw [answer_bind_ok (answer_list session header _ definitions), answer_bind, answer_ofExcept,
    final_ofExcept, picks]
  cases picked kind.group doc (definitions.map (listed header)) <;> rfl

/-- The outcome depends on the object that is picked, and on nothing else that is listed. -/
theorem found_congr {doc : Document} {definitions other : List Fields}
    (same : ∀ kind, doc.groupVersionKind = .ok kind →
      picked kind.group doc (definitions.map (listed header)) =
        picked kind.group doc (other.map (listed header))) :
    found doc session header definitions = found doc session header other := by
  cases grouped : doc.groupVersionKind with
  | error failure => rw [found_of_error _ _ grouped, found_of_error _ _ grouped]
  | ok kind =>
      rw [found_of_kind _ _ grouped, found_of_kind _ _ grouped, same kind grouped]
      cases picked kind.group doc (other.map (listed header)) with
      | error failure => rfl
      | ok object =>
          exact (respects_conclude Stocked.looksUpAlike doc object _ _
            (related_list session header (placeOf doc) definitions other)).1

end Listing

/-! ## Definitions that do not matter -/

section Ignoring

variable {ω : Type} [World ω] (session : Session ω) (header : Fields) {doc : Document}
  {definitions other before after : List Fields} {definition : Fields}

theorem told_listed {group kind : String}
    (readable : ∀ definition ∈ definitions, Readable definition) :
    ∀ object ∈ definitions.map (listed header), Told group kind object := by
  rintro _ member
  obtain ⟨definition, own, rfl⟩ := List.mem_map.mp member
  obtain ⟨isMatch, told, -⟩ := exists_describes (readable definition own)
  exact ⟨isMatch, (describes_listed _ _ _ _).trans told⟩

theorem found_insert (readable : Readable definition) (elsewhere : Foreign doc definition)
    (before after : List Fields) :
    found doc session header (before ++ definition :: after) =
      found doc session header (before ++ after) := by
  refine found_congr session header fun kind grouped => ?_
  obtain ⟨isMatch, told, iff⟩ := @exists_describes kind.group doc.kind _ readable
  have passed : isMatch = false :=
    Bool.eq_false_iff.mpr fun matched => elsewhere kind grouped (iff.mp matched)
  rw [passed, ← describes_listed _ _ header] at told
  rw [picked, picked, List.map_append, List.map_cons, matching_insert told, List.map_append]

theorem found_perm (readable : ∀ definition ∈ definitions, Readable definition)
    (same : other.Perm definitions) :
    found doc session header other = found doc session header definitions :=
  found_congr session header fun _ _ =>
    picked_perm (same.map _) (told_listed header readable)

theorem found_of_unreadable {kind : GroupVersionKind} (grouped : doc.groupVersionKind = .ok kind)
    (readable : ∀ earlier ∈ before, Readable earlier) {got : Value}
    (stated : definition.get? "spec" = some got) (shape : ∀ fields, got ≠ .map fields) :
    found doc session header (before ++ definition :: after) =
      .error (.fieldType ["spec"] "map" got) := by
  have failed := (describes_listed kind.group doc.kind header definition).trans
    (describes_of_unreadable stated shape)
  rw [found_of_kind _ _ grouped, picked, List.map_append, List.map_cons,
    matching_of_error failed (told_listed header readable)]
  rfl

theorem found_nil {kind : GroupVersionKind} (grouped : doc.groupVersionKind = .ok kind) :
    found doc session header [] =
      .error (.noDefinition (.absent kind.group doc.kind doc.namespace_)) := by
  rw [found_of_kind _ _ grouped]
  rfl

/-- A definition of another kind does not matter to a document, wherever it is listed, exactly when its
desired state is readable or the document itself has no group.  Where all are readable their order does not
matter either.  The first unreadable one is the failure of every document with a group. -/
theorem ignores_foreign_iff (doc : Document) (session : Session ω) (header : Fields) :
    (∀ definition, Foreign doc definition →
      ((∀ before after, found doc session header (before ++ definition :: after) =
          found doc session header (before ++ after)) ↔
        ((∃ kind, doc.groupVersionKind = .ok kind) → Readable definition))) ∧
      (∀ definitions other, (∀ definition ∈ definitions, Readable definition) →
        other.Perm definitions →
        found doc session header other = found doc session header definitions) ∧
      ∀ kind before definition got after, doc.groupVersionKind = .ok kind →
        (∀ earlier ∈ before, Readable earlier) → Fields.get? definition "spec" = some got →
        (∀ fields, got ≠ .map fields) →
        found doc session header (before ++ definition :: after) =
          .error (.fieldType ["spec"] "map" got) := by
  refine ⟨fun definition elsewhere => ⟨?_, fun readable before after => ?_⟩,
    fun definitions other readable same => found_perm session header readable same,
    fun kind before definition got after grouped readable stated shape =>
      found_of_unreadable session header grouped readable stated shape⟩
  · rintro ignored ⟨kind, grouped⟩ got stated
    by_contra shape
    have failed : found doc session header ([] ++ definition :: []) = _ :=
      found_of_unreadable session header grouped (by simp) stated (not_exists.mp shape)
    rw [ignored, List.nil_append, found_nil session header grouped] at failed
    simp at failed
  · cases grouped : doc.groupVersionKind with
    | error failure => rw [found_of_error _ _ grouped, found_of_error _ _ grouped]
    | ok kind => exact found_insert session header (readable ⟨kind, grouped⟩) elsewhere before after

end Ignoring

/-! ## A definition beside one without a desired state -/

/-- The definition of the kind `Repo`. -/
def repoDefinition : Fields :=
  [(.text "metadata", .ofFields [("name", .text "repos")]),
    (.text "spec", .ofFields
      [("resourceGroup", .text "sample.example.org"), ("swaggerPath", .text "/api.yaml"),
        ("resource", .ofFields [("kind", .text "Repo")])])]

/-- A definition that has no desired state. -/
def absentDefinition : Fields :=
  [(.text "metadata", .ofFields [("name", .text "absent")])]

/-- A definition whose desired state is null. -/
def nullDefinition : Fields :=
  [(.text "metadata", .ofFields [("name", .text "broken")]), (.text "spec", .null)]

/-- A document of the kind. -/
def repoDocument : Document :=
  .ofObject (.ofFields
    [("apiVersion", .text "sample.example.org/v1alpha1"), ("kind", .text "Repo"),
      ("metadata", .ofFields [("name", .text "demo"), ("namespace", .text "default")])])

/-- A session in a world in which nothing else is found. -/
def bareSession : Session Responding :=
  Client.responding (.ofUtf8 200 [] none "")

theorem grouped_repoDocument :
    repoDocument.groupVersionKind = .ok ⟨"sample.example.org", "v1alpha1", "Repo"⟩ := by
  rfl

/-- Without others the definition is found. -/
theorem found_repo :
    found repoDocument bareSession [] [repoDefinition] =
      .ok ⟨"/api.yaml", ⟨"Repo", [], [], [], []⟩, none, false⟩ := by
  have chosen : picked "sample.example.org" repoDocument [listed [] repoDefinition] =
      .ok (listed [] repoDefinition) := by rfl
  have parted : parts (listed [] repoDefinition) = .ok ("/api.yaml", ⟨"Repo", [], [], [], []⟩) := by rfl
  have unreferenced : Authentication.referenceOf repoDocument = .ok none := by rfl
  have quiet : repoDocument.isVerbose = .ok false := by rfl
  rw [found_of_kind bareSession [] grouped_repoDocument, List.map_singleton, chosen]
  simp only [bind, Except.bind]
  simp only [conclude, Authentication.resolve, answer_bind, answer_ofExcept, final_ofExcept, parted,
    unreferenced, quiet, answer_pure]

/-- The definition without a desired state describes nothing. -/
theorem foreign_absentDefinition : Foreign repoDocument absentDefinition := by
  rintro kind - ⟨spec, -, stated, -⟩
  contradiction

/-- The order does not matter, nor does the definition without a desired state, and the one that has null
for it is the failure. -/
theorem ignores_foreign_iff_repo :
    found repoDocument bareSession [] [absentDefinition, repoDefinition] =
        .ok ⟨"/api.yaml", ⟨"Repo", [], [], [], []⟩, none, false⟩ ∧
      found repoDocument bareSession [] [repoDefinition, absentDefinition] =
        .ok ⟨"/api.yaml", ⟨"Repo", [], [], [], []⟩, none, false⟩ ∧
      found repoDocument bareSession [] [absentDefinition, nullDefinition, repoDefinition] =
        .error (.fieldType ["spec"] "map" .null) := by
  obtain ⟨ignores, reorders, blames⟩ := ignores_foreign_iff repoDocument bareSession []
  have absent : Readable absentDefinition := fun spec stated => by contradiction
  have repo : Readable repoDefinition := fun spec stated => ⟨_, (Option.some.inj stated).symm⟩
  have alone := (ignores absentDefinition foreign_absentDefinition).mpr (fun _ => absent) []
    [repoDefinition]
  have turned := reorders [absentDefinition, repoDefinition] [repoDefinition, absentDefinition]
    (by simp [absent, repo]) (.swap _ _ _)
  have blamed := blames _ [absentDefinition] nullDefinition .null [repoDefinition] grouped_repoDocument
    (by simp [absent]) rfl (by simp [Value.null])
  have first := alone.trans found_repo
  exact ⟨first, turned.trans first, blamed⟩

/-- Neither the definitions of other kinds nor the order of all matter to what is found for a document. -/
def Indifferent {ω : Type} [World ω] (doc : Document) (session : Session ω) (header : Fields) : Prop :=
  (∀ before definition after, Foreign doc definition →
    found doc session header (before ++ definition :: after) =
      found doc session header (before ++ after)) ∧
    ∀ definitions other, other.Perm definitions →
      found doc session header other = found doc session header definitions

theorem not_indifferent_null : ¬Indifferent repoDocument bareSession [] := by
  rintro ⟨ignores, -⟩
  have shape (fields : Fields) : Value.null ≠ .map fields := by simp [Value.null]
  have foreign : Foreign repoDocument nullDefinition := foreign_of_unreadable rfl shape
  have failed : found repoDocument bareSession [] ([] ++ nullDefinition :: [repoDefinition]) = _ :=
    found_of_unreadable bareSession [] grouped_repoDocument (by simp) rfl shape
  rw [ignores [] nullDefinition [repoDefinition] foreign, List.nil_append, found_repo] at failed
  contradiction

end Definition

end Reconciler
