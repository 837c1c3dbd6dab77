import Reconciler.Document.Condition
import Reconciler.Document.Metadata
import Reconciler.Proofs.Document.Edits
import Reconciler.Proofs.Value.Unchanged

/-!
# Edits of the observed state

The operator edits the observed state of a document as a map: it notes the identifiers that an answer
states, writes the readiness condition, and writes or removes the reference to the object that is waited
for.  Each of these edits is an operation on the map, which comes to rest: what stands there already is
written again without a change, whatever the time.
-/

namespace Reconciler

/-! ## The map of the observed state -/

namespace Document

theorem topLevelFields_eq_ok_iff {doc : Document} {name : String} {fields : Fields} :
    doc.topLevelFields name = .ok fields ↔
      doc.object.follow [name] = .error .absent ∧ fields = [] ∨
        doc.object.follow [name] = .ok (.map fields) := by
  unfold topLevelFields map field
  cases doc.object.follow [name] with
  | ok value =>
      cases value with
      | map entries => simp [bind, Except.bind, pure, Except.pure, eq_comm]
      | scalar s => simp [bind, Except.bind]
      | list items => simp [bind, Except.bind]
  | error fault =>
      cases fault with
      | absent => simp [bind, Except.bind, eq_comm]
      | notMap depth got => simp [bind, Except.bind]

theorem topLevelFields_congr {doc other : Document} {name : String}
    (same : doc.object.follow [name] = other.object.follow [name]) :
    doc.topLevelFields name = other.topLevelFields name := by
  unfold topLevelFields map field
  rw [same]

theorem optionalString_congr {doc other : Document} {path : List String}
    (same : doc.object.follow path = other.object.follow path) :
    doc.optionalString path = other.optionalString path := by
  unfold optionalString string field
  rw [same]

variable {doc : Document} {status : Fields}

theorem hasRoom_of_statusFields (stated : doc.statusFields = .ok status) :
    doc.object.HasRoom "status" := by
  rcases topLevelFields_eq_ok_iff.mp stated with ⟨absent, -⟩ | found
  · exact .inl absent
  · exact .inr ⟨status, found⟩

/-- What is read below the observed state is what its map holds. -/
theorem follow_status (stated : doc.statusFields = .ok status) (name : String) :
    doc.object.follow ["status", name] =
      match status.get? name with
      | none => .error .absent
      | some value => .ok value := by
  obtain ⟨fields, tree⟩ := (hasRoom_of_statusFields stated).exists_map
  have outer := topLevelFields_eq_ok_iff.mp stated
  rw [tree, Value.follow_map] at outer ⊢
  cases here : Fields.get? fields "status" with
  | none =>
      obtain rfl : status = [] := by simpa [here] using outer
      rfl
  | some value =>
      obtain rfl : value = .map status := by simpa [here, Except.mapError] using outer
      change ((Value.map status).follow [name]).mapError _ = _
      rw [Value.follow_map]
      cases status.get? name <;> simp [Except.mapError, PathFault.outer]

/-- An edit of the observed state succeeds wherever it is a map, as an operation on this map. -/
def Restates (change : Edit Unit) (restate : Fields → Fields) : Prop :=
  ∀ doc status, doc.statusFields = .ok status →
    answer change doc = .ok () ∧ (final change doc).statusFields = .ok (restate status)

theorem restates_setField (name : String) (value : Value) :
    Restates (setField ["status", name] value) (·.set name value) := by
  intro doc status stated
  obtain ⟨written, done⟩ := (hasRoom_of_statusFields stated).exists_write name value
  refine ⟨answer_setField (by simp) done, topLevelFields_eq_ok_iff.mpr (.inr ?_)⟩
  rw [final_setField (by simp)]
  change (doc.object.written ["status", name] value).follow ["status"] = _
  obtain ⟨fields, tree⟩ := (hasRoom_of_statusFields stated).exists_map
  have outer := topLevelFields_eq_ok_iff.mp stated
  rw [tree, Value.follow_map] at outer
  rw [tree, Value.written]
  cases here : Fields.get? fields "status" with
  | none =>
      obtain rfl : status = [] := by simpa [here] using outer
      simp only [Value.write, here]
      rw [Value.follow_set_self]
      rfl
  | some v =>
      obtain rfl : v = .map status := by simpa [here, Except.mapError] using outer
      simp only [Value.write, here]
      rw [Value.follow_set_self]
      rfl

theorem restates_removeField (name : String) :
    Restates (removeField ["status", name]) (Fields.drop (.text name)) := by
  intro doc status stated
  refine ⟨rfl, topLevelFields_eq_ok_iff.mpr ?_⟩
  change (doc.object.remove (["status"] ++ [name])).follow ["status"] = _ ∧ _ ∨
    (doc.object.remove (["status"] ++ [name])).follow ["status"] = _
  rw [Value.follow_remove_below]
  rcases topLevelFields_eq_ok_iff.mp stated with ⟨absent, rfl⟩ | found
  · rw [absent]
    exact .inl ⟨rfl, rfl⟩
  · rw [found]
    exact .inr rfl

end Document

/-! ## Conditions -/

/-- The update that writes a readiness. -/
def Readiness.update (readiness : Readiness) : ConditionUpdate :=
  ⟨"Ready", readiness.status, readiness.reason, readiness.message, none⟩

namespace ConditionUpdate

variable (update : ConditionUpdate) (now : String)

/-- The item is a condition of another type. -/
def Misses (item : Value) : Prop :=
  ∃ fields, item = .map fields ∧
    ((Fields.get? fields "type").getD .null).equal (.text update.type) = false

/-- The first condition of the type is the one of the update, at some time. -/
def Stands (conditions : List Value) : Prop :=
  ∃ before transition after, (∀ item ∈ before, update.Misses item) ∧
    conditions = before ++ .map (update.toFields transition) :: after

theorem get?_toFields_type (transition : Value) :
    Fields.get? (update.toFields transition) "type" = some (.text update.type) := rfl

theorem get?_toFields_status (transition : Value) :
    Fields.get? (update.toFields transition) "status" = some (.text update.status) := rfl

theorem get?_toFields_transition (transition : Value) :
    Fields.get? (update.toFields transition) "lastTransitionTime" = some transition := rfl

variable {update}

theorem apply_cons_of_misses {item : Value} (misses : update.Misses item) (rest : List Value) :
    update.apply now (item :: rest) = (update.apply now rest).map (item :: ·) := by
  obtain ⟨fields, rfl, other⟩ := misses
  rw [apply, if_neg (by simp [other])]
  cases update.apply now rest <;> rfl

/-- Among conditions, the first of the type is replaced, and a new type is appended. -/
theorem apply_maps {conditions : List Value}
    (maps : ∀ item ∈ conditions, item.fields?.isSome = true) :
    ∃ updated, update.apply now conditions = .ok updated ∧ update.Stands updated ∧
      ∀ item ∈ updated, item ∈ conditions ∨ item = .map (update.toFields (.text now)) ∨
        ∃ current, .map current ∈ conditions ∧
          item = .map (update.toFields (update.transition now current)) := by
  -- The conditions before the first one of the type are passed over as they are.
  induction conditions with
  | nil =>
      exact ⟨_, rfl, ⟨[], .text now, [], by simp, rfl⟩, by simp⟩
  | cons item rest ih =>
      have is_map := maps item (by simp)
      cases item with
      | scalar s => simp [Value.fields?] at is_map
      | list items => simp [Value.fields?] at is_map
      | map current =>
          cases own : ((Fields.get? current "type").getD .null).equal (.text update.type) with
          | true =>
              refine ⟨.map (update.toFields (update.transition now current)) :: rest,
                by rw [apply, if_pos own], ⟨[], _, rest, by simp, rfl⟩, fun other member => ?_⟩
              rcases List.mem_cons.mp member with rfl | later
              · exact .inr (.inr ⟨current, by simp, rfl⟩)
              · exact .inl (by simp [later])
          | false =>
              have misses : update.Misses (.map current) := ⟨current, rfl, own⟩
              obtain ⟨updated, applied, ⟨before, transition, after, others, rfl⟩, origins⟩ :=
                ih fun other member => maps other (by simp [member])
              refine ⟨.map current :: _, by rw [apply_cons_of_misses now misses, applied]; rfl,
                ⟨.map current :: before, transition, after, ?_, rfl⟩, ?_⟩
              · exact List.forall_mem_cons.mpr ⟨misses, others⟩
              · intro other member
                rcases List.mem_cons.mp member with rfl | later
                · exact .inl (by simp)
                · rcases origins other later with there | fresh | ⟨replaced, there, same⟩
                  · exact .inl (by simp [there])
                  · exact .inr (.inl fresh)
                  · exact .inr (.inr ⟨replaced, by simp [there], same⟩)

/-- An update that stands is written again without a change, at any time. -/
theorem apply_of_stands {conditions : List Value} (stands : update.Stands conditions) :
    update.apply now conditions = .ok conditions := by
  obtain ⟨before, transition, after, others, rfl⟩ := stands
  induction before with
  | nil =>
      have own : ((Fields.get? (update.toFields transition) "type").getD .null).equal
          (.text update.type) = true := by
        rw [get?_toFields_type]
        exact (Value.equal_text_iff _ _).mpr rfl
      -- The status is the same, and with it the time of the last transition.
      have kept : update.transition now (update.toFields transition) = transition := by
        unfold ConditionUpdate.transition
        rw [get?_toFields_status, get?_toFields_transition, Option.getD_some, Option.getD_some,
          if_pos ((Value.equal_text_iff _ _).mpr rfl)]
      rw [List.nil_append, apply, if_pos own, kept]
  | cons item rest ih =>
      rw [List.cons_append, apply_cons_of_misses now (others item (by simp)),
        ih fun other member => others other (by simp [member])]
      rfl

end ConditionUpdate

namespace Document

/-- The conditions in an observed state. -/
def conditionsIn (status : Fields) : List Value :=
  match status.get? "conditions" with
  | some (.list items) => items.filter fun item => item.fields?.isSome
  | _ => []

/-- An observed state after an update of its conditions. -/
def withCondition (update : ConditionUpdate) (now : String) (status : Fields) : Fields :=
  match update.apply now (conditionsIn status) with
  | .ok updated => status.set "conditions" (.list updated)
  | .error _ => status

variable {update : ConditionUpdate} {status : Fields}

theorem conditionsIn_maps (status : Fields) :
    ∀ item ∈ conditionsIn status, item.fields?.isSome = true := by
  intro item member
  unfold conditionsIn at member
  split at member
  · exact (List.mem_filter.mp member).2
  · contradiction

theorem conditions_of_statusFields {doc : Document} (stated : doc.statusFields = .ok status) :
    doc.conditions = .ok (conditionsIn status) := by
  obtain ⟨fields, tree⟩ := (hasRoom_of_statusFields stated).exists_map
  have outer := topLevelFields_eq_ok_iff.mp stated
  rw [tree, Value.follow_map] at outer
  unfold conditions
  rw [tree]
  have member : Value.member ((Fields.get? fields "status").getD (.map [])) "conditions" =
      .ok ((status.get? "conditions").getD .null) := by
    cases here : Fields.get? fields "status" with
    | none =>
        obtain rfl : status = [] := by simpa [here] using outer
        rfl
    | some value =>
        obtain rfl : value = .map status := by simpa [here, Except.mapError] using outer
        rfl
  change (Value.member ((Fields.get? fields "status").getD (.map [])) "conditions" >>= _) = _
  rw [member]
  unfold conditionsIn
  cases status.get? "conditions" with
  | none => rfl
  | some value => cases value <;> rfl

theorem restates_setCondition (update : ConditionUpdate) (now : String) :
    Restates (setCondition update now) (withCondition update now) := by
  intro doc status stated
  obtain ⟨updated, applied, -⟩ := update.apply_maps now (conditionsIn_maps status)
  unfold setCondition withCondition
  rw [answer_bind_ok (answer_get doc), final_bind_ok (answer_get doc), final_get,
    conditions_of_statusFields stated, answer_bind_ok (answer_ofExcept _ doc),
    final_bind_ok (answer_ofExcept _ doc), final_ofExcept, applied,
    answer_bind_ok (answer_ofExcept _ doc), final_bind_ok (answer_ofExcept _ doc), final_ofExcept]
  exact restates_setField "conditions" (.list updated) doc status stated

/-- The conditions of an observed state are maps, and hold what an update writes. -/
def Conveys (update : ConditionUpdate) (status : Fields) : Prop :=
  ∃ items, status.get? "conditions" = some (.list items) ∧
    (∀ item ∈ items, item.fields?.isSome = true) ∧ update.Stands items

theorem Conveys.of_get?_eq {other : Fields} (conveys : Conveys update status)
    (same : other.get? "conditions" = status.get? "conditions") : Conveys update other := by
  unfold Conveys
  rwa [same]

theorem conveys_withCondition (update : ConditionUpdate) (now : String) (status : Fields) :
    Conveys update (withCondition update now status) := by
  obtain ⟨updated, applied, stands, origins⟩ :=
    update.apply_maps now (conditionsIn_maps status)
  unfold withCondition
  rw [applied]
  refine ⟨updated, by rw [Fields.get?_set, if_pos rfl], fun item member => ?_, stands⟩
  rcases origins item member with there | rfl | ⟨current, -, rfl⟩
  · exact conditionsIn_maps status item there
  · rfl
  · rfl

/-- An update that the conditions hold does not change the observed state. -/
theorem withCondition_of_conveys (conveys : Conveys update status) (now : String) :
    withCondition update now status = status := by
  obtain ⟨items, found, maps, stands⟩ := conveys
  have all : conditionsIn status = items := by
    unfold conditionsIn
    rw [found]
    exact List.filter_eq_self.mpr maps
  unfold withCondition
  rw [all, ConditionUpdate.apply_of_stands now stands]
  exact Fields.set_of_get? found

/-- A document tells a readiness: the first of its conditions of that type is the one that is written for
the readiness. -/
def Tells (doc : Document) (readiness : Readiness) : Prop :=
  ∃ items, doc.object.follow conditionsPath = .ok (.list items) ∧ readiness.update.Stands items

theorem tells_of_conveys {readiness : Readiness} {doc : Document}
    (stated : doc.statusFields = .ok status) (conveys : Conveys readiness.update status) :
    doc.Tells readiness := by
  obtain ⟨items, found, -, stands⟩ := conveys
  refine ⟨items, ?_, stands⟩
  rw [conditionsPath, follow_status stated, found]

theorem conditions_maps {doc : Document} {items : List Value} (stated : doc.conditions = .ok items) :
    ∀ item ∈ items, item.fields?.isSome = true := by
  obtain ⟨status, -, stated⟩ := ok_of_bind stated
  obtain ⟨value, -, stated⟩ := ok_of_bind stated
  split at stated
  · obtain rfl := Except.ok.inj stated
    exact fun item member => (List.mem_filter.mp member).2
  · obtain rfl := Except.ok.inj stated
    simp

/-- A document whose readiness could be written tells it. -/
theorem tells_of_setReady {doc : Document} {readiness : Readiness} {now : String}
    (answered : answer (setReady readiness now) doc = .ok ()) :
    (final (setReady readiness now) doc).Tells readiness := by
  let write (items : List Value) : Edit Unit := do
    setField conditionsPath (.list (← ofExcept (readiness.update.apply now items)))
  change answer (ofExcept doc.conditions >>= write) doc = _ at answered
  change (final (ofExcept doc.conditions >>= write) doc).Tells readiness
  obtain ⟨items, stated, written⟩ := ok_of_answer_bind answered
  rw [final_ofExcept] at written
  rw [final_bind_ok stated, final_ofExcept]
  rw [answer_ofExcept] at stated
  obtain ⟨updated, applied, stands, -⟩ := readiness.update.apply_maps now (conditions_maps stated)
  have told : answer (ofExcept (readiness.update.apply now items) : Edit (List Value)) doc =
      .ok updated := (answer_ofExcept _ doc).trans applied
  rw [answer_bind_ok told, final_ofExcept] at written
  rw [final_bind_ok told, final_ofExcept]
  exact ⟨updated, follow_setField (by simp [conditionsPath]) written, stands⟩

theorem get?_withCondition_of_ne (update : ConditionUpdate) (now : String) (status : Fields)
    {name : String} (other : "conditions" ≠ name) :
    (withCondition update now status).get? name = status.get? name := by
  unfold withCondition
  split
  · rw [Fields.get?_set, if_neg other]
  · rfl

theorem proper_toFields (readiness : Readiness) {transition : Value} (proper : transition.Proper) :
    (Value.map (readiness.update.toFields transition)).Proper := by
  have base : Value.Proper (.map []) := .nil
  exact ((((base.set "type" (.text _)).set "status" (.text readiness.status)).set "reason"
    (.text readiness.reason)).set "message" (.text readiness.message)).set "lastTransitionTime"
      proper

theorem proper_conditionsIn (proper : (Value.map status).Proper) :
    ∀ item ∈ conditionsIn status, item.Proper := by
  intro item member
  unfold conditionsIn at member
  split at member
  next items found =>
    exact (proper.of_get? found).of_mem (List.mem_filter.mp member).1
  next => contradiction

theorem proper_withCondition (readiness : Readiness) (now : String)
    (proper : (Value.map status).Proper) :
    (Value.map (withCondition readiness.update now status)).Proper := by
  obtain ⟨updated, applied, -, origins⟩ :=
    readiness.update.apply_maps now (conditionsIn_maps status)
  unfold withCondition
  rw [applied]
  refine proper.set _ (.list fun item member => ?_)
  rcases origins item member with there | rfl | ⟨current, there, rfl⟩
  · exact proper_conditionsIn proper item there
  · exact proper_toFields readiness (.text now)
  · refine proper_toFields readiness ?_
    have current_proper := proper_conditionsIn proper _ there
    unfold ConditionUpdate.transition
    split
    · cases found : Fields.get? current "lastTransitionTime" with
      | none => exact .text now
      | some value => exact current_proper.of_get? found
    · exact .text now

/-- An observed state that tells that the document is available, and waits for nothing. -/
def madeAvailable (now : String) (status : Fields) : Fields :=
  Fields.drop (.text "failedObjectRef") (withCondition Readiness.available.update now status)

theorem conveys_madeAvailable (now : String) (status : Fields) :
    Conveys Readiness.available.update (madeAvailable now status) := by
  refine (conveys_withCondition _ now status).of_get?_eq ?_
  unfold madeAvailable
  rw [Fields.get?_drop, if_neg (by decide)]

theorem get?_madeAvailable_failedRef (now : String) (status : Fields) :
    (madeAvailable now status).get? "failedObjectRef" = none := by
  unfold madeAvailable
  rw [Fields.get?_drop, if_pos rfl]

/-- A document that is available and waits for nothing is made available without a change. -/
theorem madeAvailable_of_conveys (conveys : Conveys Readiness.available.update status)
    (free : status.get? "failedObjectRef" = none) (now : String) :
    madeAvailable now status = status := by
  unfold madeAvailable
  rw [withCondition_of_conveys conveys, Fields.drop_of_get?_eq_none free]

theorem proper_madeAvailable (now : String) (proper : (Value.map status).Proper) :
    (Value.map (madeAvailable now status)).Proper :=
  (proper_withCondition .available now proper).drop _

/-- The readiness of a document that waits for an object. -/
def awaiting (failure : Failure) : Readiness :=
  { Readiness.unavailable with message := failure.message }

/-- An observed state that tells for which object the document waits, if for any. -/
def telling (found : Option (ObjectRef × Failure)) (now : String) (status : Fields) : Fields :=
  match found with
  | some (ref, failure) =>
    withCondition (awaiting failure).update now (status.set "failedObjectRef" ref.toValue)
  | none => madeAvailable now status

/-- An observed state tells already for which object the document waits, if for any. -/
def Settled (found : Option (ObjectRef × Failure)) (status : Fields) : Prop :=
  match found with
  | some (ref, failure) =>
    Conveys (awaiting failure).update status ∧ status.get? "failedObjectRef" = some ref.toValue
  | none => Conveys Readiness.available.update status ∧ status.get? "failedObjectRef" = none

theorem Settled.conveys {found : Option (ObjectRef × Failure)} (settled : Settled found status) :
    ∃ readiness : Readiness, Conveys readiness.update status := by
  cases found with
  | none => exact ⟨_, settled.1⟩
  | some entry => exact ⟨_, settled.1⟩

theorem settled_telling (found : Option (ObjectRef × Failure)) (now : String) (status : Fields) :
    Settled found (telling found now status) := by
  cases found with
  | none => exact ⟨conveys_madeAvailable now status, get?_madeAvailable_failedRef now status⟩
  | some entry =>
      refine ⟨conveys_withCondition _ now _, ?_⟩
      change (withCondition _ now _).get? "failedObjectRef" = _
      rw [get?_withCondition_of_ne _ _ _ (by simp), Fields.get?_set, if_pos rfl]

/-- What is told already is told again without a change, at any time. -/
theorem telling_of_settled {found : Option (ObjectRef × Failure)} (settled : Settled found status)
    (now : String) : telling found now status = status := by
  cases found with
  | none => exact madeAvailable_of_conveys settled.1 settled.2 now
  | some entry =>
      change withCondition _ now (status.set _ _) = _
      rw [Fields.set_of_get? settled.2, withCondition_of_conveys settled.1]

theorem proper_ref (ref : ObjectRef) : ref.toValue.Proper := by
  have base : Value.Proper (.map []) := .nil
  exact (((base.set "apiVersion" (.text _)).set "kind" (.text _)).set "name" (.text _)).set
    "namespace" (.text _)

theorem proper_telling (found : Option (ObjectRef × Failure)) (now : String)
    (proper : (Value.map status).Proper) : (Value.map (telling found now status)).Proper := by
  cases found with
  | none => exact proper_madeAvailable now proper
  | some entry =>
      exact proper_withCondition _ now (proper.set _ (proper_ref entry.1))

/-! ## Identifiers -/

/-- The text that an answer states for an identifier, unless it is absent or null. -/
def statedText? (body : Value) (name : String) : Option (Except Failure String) :=
  match body.get? name with
  | none | some .null => none
  | some value => some value.parameter

/-- The numbers that an answer states for identifiers are finite. -/
def FiniteNumbers (body : Value) (identifiers : List String) : Prop :=
  ∀ name ∈ identifiers, ∀ x, body.get? name = some (.float x) →
    ∃ value, Decimal.read x = .finite value

theorem FiniteNumbers.statedText?_ne_error {body : Value} {identifiers : List String}
    (finite : FiniteNumbers body identifiers) {name : String} (own : name ∈ identifiers)
    (failure : Failure) : statedText? body name ≠ some (.error failure) := by
  unfold statedText?
  cases found : body.get? name with
  | none => simp
  | some value =>
      cases value with
      | list items => simp [Value.parameter]
      | map entries => simp [Value.parameter]
      | scalar s =>
          cases s with
          | float x =>
              obtain ⟨number, read⟩ := finite name own x found
              simp [Value.parameter, read]
          | _ => simp [Value.parameter]

/-- An observed state after the identifiers of an answer were noted. -/
def noted (body : Value) (identifiers : List String) (status : Fields) : Fields :=
  identifiers.foldl (fun status name =>
    match statedText? body name with
    | some (.ok text) => status.set name (.text text)
    | _ => status) status

section Noting

variable {body : Value} {identifiers : List String}

theorem noted_cons (body : Value) (name : String) (rest : List String) (status : Fields) :
    noted body (name :: rest) status =
      noted body rest (match statedText? body name with
        | some (.ok text) => status.set name (.text text)
        | _ => status) := rfl

theorem get?_noted_of_not_mem {other : String} (apart : other ∉ identifiers) (status : Fields) :
    (noted body identifiers status).get? other = status.get? other := by
  induction identifiers generalizing status with
  | nil => rfl
  | cons name rest ih =>
      have elsewhere : name ≠ other := fun same => apart (by simp [same])
      rw [noted_cons, ih (fun later => apart (by simp [later]))]
      split
      · rw [Fields.get?_set, if_neg elsewhere]
      · rfl

/-- The text that is stated for an identifier is noted under its name. -/
theorem get?_noted {name text : String} (own : name ∈ identifiers)
    (states : statedText? body name = some (.ok text)) (status : Fields) :
    (noted body identifiers status).get? name = some (.text text) := by
  induction identifiers generalizing status with
  | nil => contradiction
  | cons first rest ih =>
      by_cases later : name ∈ rest
      · rw [noted_cons]
        exact ih later _
      · obtain rfl : name = first := by simpa [later] using own
        rw [noted_cons, get?_noted_of_not_mem later, states]
        simp [Fields.get?_set]

/-- Identifiers that are noted already are noted again without a change. -/
theorem noted_of_get? (known : ∀ name ∈ identifiers, ∀ text,
      statedText? body name = some (.ok text) → status.get? name = some (.text text)) :
    noted body identifiers status = status := by
  induction identifiers with
  | nil => rfl
  | cons name rest ih =>
      have same : (match statedText? body name with
          | some (.ok text) => status.set name (.text text)
          | _ => status) = status := by
        split
        next text states => exact Fields.set_of_get? (known name (by simp) text states)
        next => rfl
      rw [noted_cons, same]
      exact ih fun other member => known other (by simp [member])

/-- When noting identifiers leaves the observed state unchanged, it leaves it as it is. -/
theorem noted_of_unchanged
    (same : (Value.map (noted body identifiers status)).unchanged (.map status) = true) :
    noted body identifiers status = status :=
  noted_of_get? fun _ own _ states => Value.get?_of_unchanged same (get?_noted own states status)

theorem proper_noted (proper : (Value.map status).Proper) (body : Value)
    (identifiers : List String) : (Value.map (noted body identifiers status)).Proper := by
  induction identifiers generalizing status with
  | nil => exact proper
  | cons name rest ih =>
      rw [noted_cons]
      refine ih ?_
      split
      · exact proper.set _ (.text _)
      · exact proper

/-- Notes one identifier. -/
def noteIdentifier (body : Value) (name : String) : Edit Unit := do
  match statedText? body name with
  | none => pure ()
  | some stated => setField ["status", name] (.text (← ofExcept stated))

theorem noteIdentifier_map (fields : Fields) (name : String) :
    (do
        match Fields.get? fields name with
        | none | some .null => pure ()
        | some value => setField ["status", name] (.text (← ofExcept value.parameter)) : Edit Unit) =
      noteIdentifier (.map fields) name := by
  unfold noteIdentifier statedText?
  change _ = match (match Fields.get? fields name with
    | none | some .null => none
    | some value => some value.parameter) with
    | none => pure ()
    | some stated => do setField ["status", name] (.text (← ofExcept stated))
  cases Fields.get? fields name with
  | none => rfl
  | some value =>
      cases value with
      | scalar s => cases s <;> rfl
      | list items => rfl
      | map entries => rfl

theorem forM_silent {names : List String} (silent : ∀ name, noteIdentifier body name = pure ()) :
    names.forM (noteIdentifier body) = pure () := by
  induction names with
  | nil => rfl
  | cons name rest ih =>
      change noteIdentifier body name >>= (fun _ => rest.forM _) = _
      rw [silent, pure_bind, ih]

theorem writeIdentifiers_eq (identifiers : List String) (body : Value) :
    writeIdentifiers identifiers body = identifiers.forM (noteIdentifier body) := by
  cases body with
  | scalar s => exact (forM_silent fun _ => rfl).symm
  | list items => exact (forM_silent fun _ => rfl).symm
  | map fields =>
      unfold writeIdentifiers
      refine (bind_pure_unit (m := Edit)).trans ?_
      induction identifiers with
      | nil => rfl
      | cons name rest ih =>
          change _ = noteIdentifier (.map fields) name >>= fun _ => rest.forM _
          rw [← ih, ← noteIdentifier_map, List.forIn_cons]
          cases Fields.get? fields name with
          | none => simp
          | some value =>
              cases value with
              | scalar s => cases s <;> simp
              | list items => simp
              | map entries => simp

/-- Noting identifiers succeeds on the map of the observed state, unless one of them has no text. -/
theorem writeIdentifiers_cases {doc : Document} (stated : doc.statusFields = .ok status)
    (identifiers : List String) (body : Value) :
    answer (writeIdentifiers identifiers body) doc = .ok () ∧
        (final (writeIdentifiers identifiers body) doc).statusFields =
          .ok (noted body identifiers status) ∨
      ∃ name ∈ identifiers, ∃ failure, statedText? body name = some (.error failure) ∧
        answer (writeIdentifiers identifiers body) doc = .error failure := by
  rw [writeIdentifiers_eq]
  induction identifiers generalizing doc status with
  | nil => exact .inl ⟨rfl, stated⟩
  | cons name rest ih =>
      change answer (noteIdentifier body name >>= fun _ => rest.forM _) doc = _ ∧
        (final (noteIdentifier body name >>= fun _ => rest.forM _) doc).statusFields = _ ∨
          ∃ other ∈ name :: rest, ∃ failure, _ ∧
            answer (noteIdentifier body name >>= fun _ => rest.forM _) doc = _
      have step : (∃ failure, statedText? body name = some (.error failure) ∧
            answer (noteIdentifier body name) doc = .error failure) ∨
          answer (noteIdentifier body name) doc = .ok () ∧
            (final (noteIdentifier body name) doc).statusFields =
              .ok (match statedText? body name with
                | some (.ok text) => status.set name (.text text)
                | _ => status) := by
        unfold noteIdentifier
        cases statedText? body name with
        | none => exact .inr ⟨rfl, stated⟩
        | some outcome =>
            cases outcome with
            | error failure => exact .inl ⟨failure, rfl, rfl⟩
            | ok text => exact .inr (restates_setField name (.text text) doc status stated)
      rcases step with ⟨failure, states, failed⟩ | ⟨answered, left⟩
      · exact .inr ⟨name, by simp, failure, states, by rw [answer_bind, failed]⟩
      · rw [answer_bind_ok answered, final_bind_ok answered, noted_cons]
        rcases ih left with done | ⟨other, own, failure, states, failed⟩
        · exact .inl done
        · exact .inr ⟨other, by simp [own], failure, states, failed⟩

end Noting

end Document

end Reconciler
