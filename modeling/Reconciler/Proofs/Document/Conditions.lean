import Mathlib.Data.List.DropRight
import Reconciler.Proofs.Document.Status

/-!
# Histories of conditions

Conditions are updated one type at a time, in any order.  A list of conditions with distinct types keeps
them distinct and in their places, and a type that is used for the first time is put at the end.  What a
condition tells is decided by the updates of its own type: it has the words of the last one, and the time
since which the updates have set one status.
-/

namespace Reconciler

/-- An update of a condition, and the time at which it is made. -/
structure Revision where
  /-- The update. -/
  update : ConditionUpdate
  /-- The time. -/
  time : String

namespace Conditions

/-- The type of a condition, null when it states none. -/
def typeOf (condition : Value) : Value :=
  (condition.get? "type").getD .null

/-- No two conditions have equal types. -/
def Distinct (conditions : List Value) : Prop :=
  conditions.Pairwise fun a b => (typeOf a).equal (typeOf b) = false

/-- The conditions after revisions, one after the other. -/
def revised (conditions : List Value) (history : List Revision) : Except Failure (List Value) :=
  history.foldlM (fun conditions revision => revision.update.apply revision.time conditions) conditions

/-- The revisions of the conditions of a type. -/
def own (type : Value) (history : List Revision) : List Revision :=
  history.filter fun revision => type.equal (.text revision.update.type)

/-- The condition of a type, if there is one. -/
def ofType (conditions : List Value) (type : String) : Option Value :=
  conditions.find? fun item => (typeOf item).equal (.text type)

/-- No condition has a type. -/
def isNew (conditions : List Value) (type : String) : Bool :=
  conditions.all fun item => !(typeOf item).equal (.text type)

/-- The types that revisions use and that no condition has at the start, in the order of their first use. -/
def newTypes (start : List Value) (history : List Revision) : List String :=
  ((history.map fun revision => revision.update.type).filter (isNew start)).eraseDups

/-- The revisions at the end of a history that all set the status of the last one. -/
def finalRun (history : List Revision) : List Revision :=
  history.rtakeWhile fun revision =>
    history.getLast?.any fun last => revision.update.status == last.update.status

/-! ## One type -/

/-- The condition of a type after a revision of it. -/
def succeeded (current : Option Value) (revision : Revision) : Option Value :=
  let transition : Value :=
    match current.bind Value.fields? with
    | none => .text revision.time
    | some fields => revision.update.transition revision.time fields
  some (.map (revision.update.toFields transition))

/-- A condition has stated a status since before all of some revisions. -/
def Holds (current : Option Value) (history : List Revision) : Prop :=
  ∃ fields, current = some (.map fields) ∧ ∀ revision ∈ history,
    Fields.get? fields "status" = some (.text revision.update.status)

/-- The time of the last transition after revisions of one type: that of the first revision in the final
run, or the one before all of them when the status was that of every one. -/
structure Since (current : Option Value) (history : List Revision) (transition : Value) : Prop where
  /-- The status has changed. -/
  changed : ¬Holds current history →
    (finalRun history).head?.map (fun revision => .text revision.time) = some transition
  /-- The status was never another one. -/
  held : ∀ fields, current = some (.map fields) → Holds current history →
    Fields.get? fields "lastTransitionTime" = some transition

theorem finalRun_singleton (revision : Revision) : finalRun [revision] = [revision] := by
  simp [finalRun, List.rtakeWhile]

/-- A revision that sets the status of the one before it goes on with its run, and another one begins a
run. -/
theorem finalRun_concat (history : List Revision) (last revision : Revision) :
    finalRun (history ++ [last] ++ [revision]) =
      if last.update.status = revision.update.status then
        finalRun (history ++ [last]) ++ [revision]
      else [revision] := by
  unfold finalRun
  rw [List.rtakeWhile_concat]
  simp only [List.getLast?_concat, Option.any_some, beq_self_eq_true, if_true]
  split
  next same => rw [same]
  next changed => rw [List.rtakeWhile_concat, if_neg (by simpa using changed), List.nil_append]

theorem succeeded_map (fields : Fields) (revision : Revision) :
    succeeded (some (.map fields)) revision =
      some (.map (revision.update.toFields (revision.update.transition revision.time fields))) := rfl

/-- After a condition of some revision, the time of the last transition moves only with the status. -/
theorem transition_toFields (last revision : Revision) (transition : Value) :
    revision.update.transition revision.time (last.update.toFields transition) =
      if last.update.status = revision.update.status then transition else .text revision.time := by
  unfold ConditionUpdate.transition
  rw [ConditionUpdate.get?_toFields_status, ConditionUpdate.get?_toFields_transition]
  simp only [Option.getD_some, Value.equal_text_iff, Value.scalar.injEq, Scalar.text.injEq]

theorem holds_concat_iff {current : Option Value} {history : List Revision} {last revision : Revision}
    (same : last.update.status = revision.update.status) :
    Holds current (history ++ [last] ++ [revision]) ↔ Holds current (history ++ [last]) := by
  unfold Holds
  refine exists_congr fun fields => and_congr_right fun _ => ?_
  simp only [List.mem_append, List.mem_singleton, or_imp, forall_and, forall_eq, same]
  tauto

/-- A first revision keeps the time of a condition whose status it sets again, and sets its own otherwise. -/
theorem since_singleton {current : Option Value}
    (dated : ∀ fields, current = some (.map fields) →
      (Fields.get? fields "lastTransitionTime").isSome = true) (revision : Revision) :
    Since current [revision] (match current.bind Value.fields? with
      | none => .text revision.time
      | some fields => revision.update.transition revision.time fields) := by
  cases shape : current.bind Value.fields? with
  | none =>
      refine ⟨fun _ => by rw [finalRun_singleton]; rfl, ?_⟩
      rintro fields rfl -
      contradiction
  | some fields =>
      obtain ⟨v, rfl, is_map⟩ := Option.bind_eq_some_iff.mp shape
      obtain rfl := Value.fields?_eq_some_iff.mp is_map
      have holds_iff : Holds (some (.map fields)) [revision] ↔
          Fields.get? fields "status" = some (.text revision.update.status) := by
        simp [Holds]
      have states_iff : ((Fields.get? fields "status").getD .null).equal
            (.text revision.update.status) = true ↔
          Fields.get? fields "status" = some (.text revision.update.status) := by
        rw [Value.equal_text_iff]
        cases Fields.get? fields "status" <;> simp
      obtain ⟨time, stated⟩ := Option.isSome_iff_exists.mp (dated fields rfl)
      dsimp only
      unfold ConditionUpdate.transition
      refine ⟨fun changed => ?_, ?_⟩
      · rw [if_neg (mt states_iff.mp (mt holds_iff.mpr changed)), finalRun_singleton]
        rfl
      · rintro entries ⟨rfl⟩ held
        rw [if_pos (states_iff.mpr (holds_iff.mp held)), stated]
        rfl

/-- Revisions of one type leave the condition of the last one, with the time since which its status was
set. -/
theorem foldl_succeeded {current : Option Value}
    (dated : ∀ fields, current = some (.map fields) →
      (Fields.get? fields "lastTransitionTime").isSome = true)
    (before : List Revision) (last : Revision) :
    ∃ transition, (before ++ [last]).foldl succeeded current =
        some (.map (last.update.toFields transition)) ∧ Since current (before ++ [last]) transition := by
  -- The induction is on the history from its end, so that each revision meets the condition of the one
  -- before it.
  induction before using List.reverseRecOn generalizing last with
  | nil => exact ⟨_, rfl, since_singleton dated last⟩
  | append_singleton before previous ih =>
      obtain ⟨transition, told, since⟩ := ih previous
      refine ⟨_, by rw [List.foldl_concat, told, succeeded_map], ?_⟩
      rw [transition_toFields]
      by_cases same : previous.update.status = last.update.status
      · rw [if_pos same]
        refine ⟨fun changed => ?_, fun fields at_start held => ?_⟩
        · have run := since.changed (mt (holds_concat_iff same).mpr changed)
          rw [finalRun_concat, if_pos same, List.head?_append]
          obtain ⟨first, begins, time⟩ := Option.map_eq_some_iff.mp run
          rw [begins, Option.some_or, Option.map_some, time]
        · exact since.held fields at_start ((holds_concat_iff same).mp held)
      · rw [if_neg same]
        refine ⟨fun _ => by rw [finalRun_concat, if_neg same]; rfl, fun fields at_start held => ?_⟩
        obtain ⟨entries, -, states⟩ := held
        have stated := (states previous (by simp)).symm.trans (states last (by simp))
        simp only [Option.some.injEq, Value.scalar.injEq, Scalar.text.injEq] at stated
        exact absurd stated same

/-! ## Lists of conditions -/

theorem typeOf_toFields (update : ConditionUpdate) (transition : Value) :
    typeOf (.map (update.toFields transition)) = .text update.type := rfl

theorem misses_iff {update : ConditionUpdate} {item : Value} (is_map : item.fields?.isSome = true) :
    update.Misses item ↔ (typeOf item).equal (.text update.type) = false := by
  obtain ⟨fields, shape⟩ := Option.isSome_iff_exists.mp is_map
  obtain rfl := Value.fields?_eq_some_iff.mp shape
  exact ⟨fun ⟨_, same, other⟩ => Value.map.inj same ▸ other, fun other => ⟨fields, rfl, other⟩⟩

variable {update : ConditionUpdate} (now : String)

/-- The conditions before the first one of a type are passed over as they are. -/
theorem apply_append_of_misses {before : List Value} (others : ∀ item ∈ before, update.Misses item)
    (rest : List Value) :
    update.apply now (before ++ rest) = (update.apply now rest).map (before ++ ·) := by
  induction before with
  | nil =>
      rw [List.nil_append]
      cases update.apply now rest <;> rfl
  | cons item before ih =>
      rw [List.cons_append, ConditionUpdate.apply_cons_of_misses now (others item (by simp)),
        ih fun other member => others other (by simp [member])]
      cases update.apply now rest <;> rfl

theorem apply_of_misses {conditions : List Value} (others : ∀ item ∈ conditions, update.Misses item) :
    update.apply now conditions = .ok (conditions ++ [.map (update.toFields (.text now))]) := by
  have applied := apply_append_of_misses now others []
  rw [List.append_nil] at applied
  exact applied

theorem apply_of_own {before after : List Value} {current : Fields}
    (others : ∀ item ∈ before, update.Misses item)
    (same : typeOf (.map current) = .text update.type) :
    update.apply now (before ++ .map current :: after) =
      .ok (before ++ .map (update.toFields (update.transition now current)) :: after) := by
  have own : ((Fields.get? current "type").getD .null).equal (.text update.type) = true :=
    (Value.equal_text_iff _ _).mpr same
  rw [apply_append_of_misses now others, ConditionUpdate.apply, if_pos own]
  rfl

/-- Among maps, either all are conditions of other types, or there is a first one of the type. -/
theorem misses_or_own {conditions : List Value}
    (maps : ∀ item ∈ conditions, item.fields?.isSome = true) (update : ConditionUpdate) :
    (∀ item ∈ conditions, update.Misses item) ∨
      ∃ before current after, conditions = before ++ .map current :: after ∧
        (∀ item ∈ before, update.Misses item) ∧ typeOf (.map current) = .text update.type := by
  induction conditions with
  | nil => exact .inl (by simp)
  | cons item rest ih =>
      obtain ⟨current, shape⟩ := Option.isSome_iff_exists.mp (maps item (by simp))
      obtain rfl := Value.fields?_eq_some_iff.mp shape
      cases own : (typeOf (.map current)).equal (.text update.type) with
      | true => exact .inr ⟨[], current, rest, rfl, by simp, (Value.equal_text_iff _ _).mp own⟩
      | false =>
          have misses : update.Misses (.map current) := ⟨current, rfl, own⟩
          rcases ih fun other member => maps other (by simp [member]) with
            others | ⟨before, found, after, rfl, others, same⟩
          · exact .inl (List.forall_mem_cons.mpr ⟨misses, others⟩)
          · exact .inr ⟨.map current :: before, found, after, rfl,
              List.forall_mem_cons.mpr ⟨misses, others⟩, same⟩

/-! ## Whole histories -/

theorem own_concat_self (history : List Revision) (revision : Revision) :
    own (.text revision.update.type) (history ++ [revision]) =
      own (.text revision.update.type) history ++ [revision] := by
  have same : (Value.text revision.update.type).equal (.text revision.update.type) = true :=
    (Value.equal_text_iff _ _).mpr rfl
  simp [own, List.filter_append, same]

theorem own_concat_of_ne {type : Value} (history : List Revision) {revision : Revision}
    (other : type.equal (.text revision.update.type) = false) :
    own type (history ++ [revision]) = own type history := by
  simp [own, List.filter_append, other]

section NewTypes

private theorem eraseDups_concat (types : List String) (type : String) :
    (types ++ [type]).eraseDups =
      if type ∈ types then types.eraseDups else types.eraseDups ++ [type] := by
  rw [List.eraseDups_append, List.removeAll, List.filter_singleton, List.elem_eq_mem]
  split <;> simp [*, List.eraseDups_cons]

variable {start : List Value} {history : List Revision} {revision : Revision}

theorem isNew_iff {type : String} : isNew start type = true ↔ .text type ∉ start.map typeOf := by
  simp [isNew, ← Bool.not_eq_true, Value.equal_text_iff]

/-- A type is new when a revision uses it and no condition has it at the start. -/
theorem mem_newTypes_iff {type : String} :
    type ∈ newTypes start history ↔
      (∃ revision ∈ history, revision.update.type = type) ∧ .text type ∉ start.map typeOf := by
  rw [newTypes, List.mem_eraseDups, List.mem_filter, isNew_iff, List.mem_map]

theorem newTypes_concat_of_mem_start (known : .text revision.update.type ∈ start.map typeOf) :
    newTypes start (history ++ [revision]) = newTypes start history := by
  have dropped := mt isNew_iff.mp (not_not_intro known)
  rw [newTypes, List.map_append, List.filter_append, List.map_singleton,
    List.filter_cons_of_neg dropped, List.filter_nil, List.append_nil]
  rfl

theorem newTypes_concat_of_mem (known : revision.update.type ∈ newTypes start history) :
    newTypes start (history ++ [revision]) = newTypes start history := by
  have fresh := isNew_iff.mpr (mem_newTypes_iff.mp known).2
  rw [newTypes, List.mem_eraseDups] at known
  rw [newTypes, List.map_append, List.filter_append, List.map_singleton,
    List.filter_cons_of_pos fresh, List.filter_nil, eraseDups_concat, if_pos known]
  rfl

theorem newTypes_concat_of_not_mem (fresh : .text revision.update.type ∉ start.map typeOf)
    (unknown : revision.update.type ∉ newTypes start history) :
    newTypes start (history ++ [revision]) = newTypes start history ++ [revision.update.type] := by
  rw [newTypes, List.mem_eraseDups] at unknown
  rw [newTypes, List.map_append, List.filter_append, List.map_singleton,
    List.filter_cons_of_pos (isNew_iff.mpr fresh), List.filter_nil, eraseDups_concat,
    if_neg unknown]
  rfl

end NewTypes

theorem Distinct.of_types {conditions updated : List Value} (distinct : Distinct conditions)
    (types : updated.map typeOf = conditions.map typeOf) : Distinct updated := by
  unfold Distinct at distinct ⊢
  rw [← List.pairwise_map (f := typeOf) (R := fun a b => a.equal b = false)] at distinct ⊢
  rwa [types]

theorem Distinct.apart {conditions : List Value} (distinct : Distinct conditions) {i j : Nat}
    (places : i ≠ j) {item other : Value} (here : conditions[i]? = some item)
    (there : conditions[j]? = some other) {type : String} (same : typeOf other = .text type) :
    (typeOf item).equal (.text type) = false := by
  obtain ⟨inside, rfl⟩ := List.getElem?_eq_some_iff.mp here
  obtain ⟨behind, rfl⟩ := List.getElem?_eq_some_iff.mp there
  have pairs := List.pairwise_iff_getElem.mp distinct
  rw [← Bool.not_eq_true, Value.equal_text_iff]
  intro equal
  rcases Nat.lt_or_gt_of_ne places with before | after
  · have apart := pairs i j inside behind before
    rw [equal, same, (Value.equal_text_iff _ _).mpr rfl] at apart
    contradiction
  · have apart := pairs j i behind inside after
    rw [equal, same, (Value.equal_text_iff _ _).mpr rfl] at apart
    contradiction

theorem Distinct.ofType_eq {conditions : List Value} (distinct : Distinct conditions) {i : Nat}
    {item : Value} (here : conditions[i]? = some item) {type : String}
    (same : typeOf item = .text type) : ofType conditions type = some item := by
  obtain ⟨inside, at_place⟩ := List.getElem?_eq_some_iff.mp here
  refine List.find?_eq_some_iff_getElem.mpr
    ⟨(Value.equal_text_iff _ _).mpr same, i, inside, at_place, fun j before => ?_⟩
  have earlier := List.getElem?_eq_getElem (before.trans inside)
  simp [distinct.apart before.ne earlier here same]

/-- What a history leaves: conditions with distinct types, those of the start in their places and the new
ones behind them, each as the revisions of its own type leave it. -/
structure Told (start : List Value) (history : List Revision) (conditions : List Value) : Prop where
  /-- The conditions are maps. -/
  maps : ∀ item ∈ conditions, item.fields?.isSome = true
  /-- Their types are distinct. -/
  distinct : Distinct conditions
  /-- New types stand behind the ones of the start. -/
  types : conditions.map typeOf = start.map typeOf ++ (newTypes start history).map .text
  /-- Each condition has succeeded the one in its place, by the revisions of its type. -/
  shown : ∀ (i : Nat) (item : Value), conditions[i]? = some item →
    (own (typeOf item) history).foldl succeeded start[i]? = some item

namespace Told

variable {start conditions : List Value} {history : List Revision} (told : Told start history conditions)

include told

/-- No revision has the type of no condition. -/
theorem own_eq_nil {type : String} (unknown : .text type ∉ conditions.map typeOf) :
    own (.text type) history = [] := by
  rw [told.types, List.mem_append, not_or] at unknown
  refine List.filter_eq_nil_iff.mpr fun revision member same => unknown.2 ?_
  obtain rfl : type = revision.update.type := by
    have := (Value.equal_text_iff _ _).mp same
    simpa using this
  exact List.mem_map_of_mem (mem_newTypes_iff.mpr ⟨⟨revision, member, rfl⟩, unknown.1⟩)

theorem length_le : start.length ≤ conditions.length := by
  have lengths := congrArg List.length told.types
  simp only [List.length_map, List.length_append] at lengths
  omega

/-- A revision of a type that no condition has puts a condition at the end. -/
theorem concat_new {revision : Revision}
    (others : ∀ item ∈ conditions, revision.update.Misses item) :
    Told start (history ++ [revision])
      (conditions ++ [.map (revision.update.toFields (.text revision.time))]) := by
  have apart : ∀ item ∈ conditions, (typeOf item).equal (.text revision.update.type) = false :=
    fun item member => (misses_iff (told.maps item member)).mp (others item member)
  have unknown : .text revision.update.type ∉ conditions.map typeOf := by
    rintro known
    obtain ⟨item, member, same⟩ := List.mem_map.mp known
    have other := apart item member
    rw [same, (Value.equal_text_iff _ _).mpr rfl] at other
    contradiction
  have fresh := unknown
  rw [told.types, List.mem_append, not_or] at fresh
  refine ⟨?_, ?_, ?_, ?_⟩
  · simp only [List.mem_append, List.mem_singleton]
    rintro item (there | rfl)
    · exact told.maps item there
    · rfl
  · refine List.pairwise_append.mpr ⟨told.distinct, List.pairwise_singleton _ _, ?_⟩
    simpa [typeOf_toFields] using apart
  · rw [List.map_append, told.types, newTypes_concat_of_not_mem fresh.1
      fun known => fresh.2 (List.mem_map_of_mem known)]
    simp [typeOf_toFields]
  · intro i item here
    rcases Nat.lt_or_ge i conditions.length with inside | behind
    · rw [List.getElem?_append_left inside] at here
      rw [own_concat_of_ne history (apart item (List.mem_of_getElem? here))]
      exact told.shown i item here
    · -- The type was not used before, and the start has nothing in this place.
      rw [List.getElem?_append_right behind, List.getElem?_singleton] at here
      obtain ⟨last, rfl⟩ : i - conditions.length = 0 ∧
          .map (revision.update.toFields (.text revision.time)) = item := by
        split at here <;> simp_all
      have absent : start[i]? = none := List.getElem?_eq_none (told.length_le.trans behind)
      rw [typeOf_toFields, own_concat_self, told.own_eq_nil unknown, absent]
      rfl

/-- A revision of a type that a condition has replaces this condition in its place. -/
theorem concat_own {revision : Revision} {before after : List Value} {current : Fields}
    (shape : conditions = before ++ .map current :: after)
    (same : typeOf (.map current) = .text revision.update.type) :
    Told start (history ++ [revision]) (before ++ .map (revision.update.toFields
      (revision.update.transition revision.time current)) :: after) := by
  have types : (before ++ .map (revision.update.toFields
      (revision.update.transition revision.time current)) :: after).map typeOf =
        conditions.map typeOf := by
    simp [shape, same, typeOf_toFields]
  have there : conditions[before.length]? = some (.map current) := by simp [shape]
  have known : .text revision.update.type ∈ start.map typeOf ++ (newTypes start history).map .text := by
    rw [← told.types, ← same]
    exact List.mem_map_of_mem (List.mem_of_getElem? there)
  refine ⟨?_, told.distinct.of_types types, ?_, ?_⟩
  · have maps := told.maps
    simp only [shape, List.mem_append, List.mem_cons] at maps ⊢
    rintro item (earlier | rfl | later)
    · exact maps item (.inl earlier)
    · rfl
    · exact maps item (.inr (.inr later))
  · rw [types, told.types]
    rcases List.mem_append.mp known with at_start | new
    · rw [newTypes_concat_of_mem_start at_start]
    · obtain ⟨type, new, text⟩ := List.mem_map.mp new
      obtain rfl : type = revision.update.type := by simpa using text
      rw [newTypes_concat_of_mem new]
  · intro i item here
    by_cases place : i = before.length
    · subst place
      rw [List.getElem?_append_right le_rfl, Nat.sub_self, List.getElem?_cons_zero] at here
      obtain rfl := Option.some.inj here
      have before_it := told.shown _ _ there
      rw [same] at before_it
      rw [typeOf_toFields, own_concat_self, List.foldl_concat, before_it, succeeded_map]
    · have kept : conditions[i]? = some item := by
        rw [shape, ← here]
        rcases Nat.lt_or_gt_of_ne place with earlier | later
        · rw [List.getElem?_append_left earlier, List.getElem?_append_left earlier]
        · obtain ⟨k, rfl⟩ := Nat.exists_eq_add_of_lt later
          simp [List.getElem?_append_right, Nat.add_assoc]
      rw [own_concat_of_ne history (told.distinct.apart place kept there same)]
      exact told.shown i item kept

/-- Each revision goes on with what the ones before it leave. -/
theorem concat (revision : Revision) :
    ∃ updated, revision.update.apply revision.time conditions = .ok updated ∧
      Told start (history ++ [revision]) updated := by
  rcases misses_or_own told.maps revision.update with
    others | ⟨before, current, after, shape, others, same⟩
  · exact ⟨_, apply_of_misses _ others, told.concat_new others⟩
  · exact ⟨_, shape ▸ apply_of_own _ others same, told.concat_own shape same⟩

end Told

theorem told_nil {start : List Value} (maps : ∀ item ∈ start, item.fields?.isSome = true)
    (distinct : Distinct start) : Told start [] start :=
  ⟨maps, distinct, by simp [newTypes], fun _ _ here => here⟩

theorem exists_told {start : List Value} (maps : ∀ item ∈ start, item.fields?.isSome = true)
    (distinct : Distinct start) (history : List Revision) :
    ∃ conditions, revised start history = .ok conditions ∧ Told start history conditions := by
  induction history using List.reverseRecOn with
  | nil => exact ⟨start, rfl, told_nil maps distinct⟩
  | append_singleton history revision ih =>
      obtain ⟨conditions, so_far, told⟩ := ih
      obtain ⟨updated, applied, told⟩ := told.concat revision
      refine ⟨updated, ?_, told⟩
      unfold revised at so_far ⊢
      rw [List.foldlM_append, so_far, ← applied]
      exact bind_pure (m := Except Failure) _

namespace Told

variable {start conditions : List Value} {history : List Revision} (told : Told start history conditions)

include told

/-- A condition of the start stands in its place, with the same type. -/
theorem exists_in_place {i : Nat} {item : Value} (here : start[i]? = some item) :
    ∃ now, conditions[i]? = some now ∧ typeOf now = typeOf item := by
  obtain ⟨inside, rfl⟩ := List.getElem?_eq_some_iff.mp here
  have reaches := inside.trans_le told.length_le
  refine ⟨conditions[i], List.getElem?_eq_getElem reaches, ?_⟩
  have types := congrArg (·[i]?) told.types
  simpa [List.getElem?_append_left, inside, reaches] using types

/-- A condition whose type no revision has is the one of the start. -/
theorem unchanged {i : Nat} {item : Value} (here : start[i]? = some item)
    (none : own (typeOf item) history = []) : conditions[i]? = some item := by
  obtain ⟨now, there, same⟩ := told.exists_in_place here
  have shown := told.shown i now there
  rw [same, none, List.foldl_nil, here] at shown
  rw [there, shown]

/-- A condition has the type of the one at the start in its place, and no other one at the start has it. -/
theorem ofType_start {i : Nat} {item : Value} (here : conditions[i]? = some item) {type : String}
    (same : typeOf item = .text type) : ofType start type = start[i]? := by
  cases found : ofType start type with
  | none =>
      refine (Option.eq_none_iff_forall_ne_some.mpr fun former there => ?_).symm
      obtain ⟨now, at_place, kept⟩ := told.exists_in_place there
      obtain rfl := Option.some.inj (here.symm.trans at_place)
      have other := List.find?_eq_none.mp found former (List.mem_of_getElem? there)
      exact other ((Value.equal_text_iff _ _).mpr (kept.symm.trans same))
  | some former =>
      obtain ⟨equal, j, inside, at_j, -⟩ := List.find?_eq_some_iff_getElem.mp found
      have there := List.getElem?_eq_some_iff.mpr ⟨inside, at_j⟩
      obtain ⟨now, at_place, kept⟩ := told.exists_in_place there
      by_cases place : j = i
      · exact place ▸ there.symm
      · have apart := told.distinct.apart place at_place here same
        rw [kept, equal] at apart
        contradiction

/-- A condition whose type a revision has is the one of the last such revision. -/
theorem updated (dated : ∀ fields, .map fields ∈ start →
      (Fields.get? fields "lastTransitionTime").isSome = true) {type : String}
    {last : Revision} (ends : (own (.text type) history).getLast? = some last) :
    ∃ transition, ofType conditions type = some (.map (last.update.toFields transition)) ∧
      Since (ofType start type) (own (.text type) history) transition := by
  obtain ⟨before, shape⟩ := List.getLast?_eq_some_iff.mp ends
  have known : .text type ∈ conditions.map typeOf := by
    by_contra unknown
    rw [told.own_eq_nil unknown] at ends
    contradiction
  obtain ⟨item, member, same⟩ := List.mem_map.mp known
  obtain ⟨i, here⟩ := List.mem_iff_getElem?.mp member
  have at_start : ∀ fields, start[i]? = some (.map fields) →
      (Fields.get? fields "lastTransitionTime").isSome = true :=
    fun fields stood => dated fields (List.mem_of_getElem? stood)
  obtain ⟨transition, left, since⟩ := foldl_succeeded at_start before last
  have shown := told.shown i item here
  rw [same, shape, left] at shown
  refine ⟨transition, (told.distinct.ofType_eq here same).trans shown.symm, ?_⟩
  rw [told.ofType_start here same, shape]
  exact since

end Told

/-- Revisions leave conditions with distinct types.  Those of the start keep their places, and the new
types follow in the order of their first use.  A condition whose type is not revised is unchanged; another
one has the status, the reason and the message of the last revision of its type, and the time of the first
revision in the final run of them, or its own one at the start when its status was always the same. -/
theorem revised_told {start : List Value}
    (dated : ∀ item ∈ start, ∃ fields, item = .map fields ∧
      (Fields.get? fields "lastTransitionTime").isSome = true)
    (distinct : Distinct start) (history : List Revision) :
    ∃ conditions, revised start history = .ok conditions ∧ Distinct conditions ∧
      conditions.map typeOf = start.map typeOf ++ (newTypes start history).map .text ∧
      (∀ (i : Nat) (item : Value), start[i]? = some item → own (typeOf item) history = [] →
        conditions[i]? = some item) ∧
      ∀ type last, (own (.text type) history).getLast? = some last →
        ∃ transition, ofType conditions type = some (.map (last.update.toFields transition)) ∧
          Since (ofType start type) (own (.text type) history) transition := by
  have maps : ∀ item ∈ start, item.fields?.isSome = true := fun item member => by
    obtain ⟨fields, rfl, -⟩ := dated item member
    rfl
  obtain ⟨conditions, left, told⟩ := exists_told maps distinct history
  have times : ∀ fields, .map fields ∈ start →
      (Fields.get? fields "lastTransitionTime").isSome = true := fun fields member => by
    obtain ⟨entries, same, stated⟩ := dated _ member
    exact Value.map.inj same ▸ stated
  exact ⟨conditions, left, told.distinct, told.types, fun i item => told.unchanged,
    fun type last => told.updated times⟩

/-- A condition at the start of a history. -/
def initial (type status : String) : Value :=
  .map (ConditionUpdate.toFields ⟨type, status, "Started", "", none⟩ (.text "08:00"))

/-- A document is ready throughout, though for another reason, and is stored after a first attempt. -/
def storing : List Revision :=
  [⟨⟨"Ready", "True", "Renewed", "", none⟩, "09:00"⟩,
    ⟨⟨"Stored", "False", "Full", "no space", none⟩, "10:00"⟩,
    ⟨⟨"Stored", "True", "Written", "", none⟩, "11:00"⟩,
    ⟨⟨"Ready", "True", "Renewed", "again", none⟩, "12:00"⟩,
    ⟨⟨"Stored", "True", "Checked", "", none⟩, "13:00"⟩]

theorem revised_told_storing :
    ∃ conditions, revised [initial "Ready" "True", initial "Synced" "False"] storing = .ok conditions ∧
      conditions.map typeOf = [.text "Ready", .text "Synced", .text "Stored"] ∧
      conditions[1]? = some (initial "Synced" "False") ∧
      ofType conditions "Ready" = some
        (.map (ConditionUpdate.toFields ⟨"Ready", "True", "Renewed", "again", none⟩ (.text "08:00"))) ∧
      ofType conditions "Stored" = some
        (.map (ConditionUpdate.toFields ⟨"Stored", "True", "Checked", "", none⟩ (.text "11:00"))) := by
  have dated : ∀ item ∈ [initial "Ready" "True", initial "Synced" "False"], ∃ fields,
      item = .map fields ∧ (Fields.get? fields "lastTransitionTime").isSome = true := by
    simp only [List.mem_cons, List.not_mem_nil, or_false]
    rintro item (rfl | rfl) <;> exact ⟨_, rfl, rfl⟩
  have distinct : Distinct [initial "Ready" "True", initial "Synced" "False"] := by
    unfold Distinct
    decide
  obtain ⟨conditions, left, -, types, kept, told⟩ := revised_told dated distinct storing
  obtain ⟨since, ready, held⟩ := told "Ready" _ rfl
  obtain ⟨last, stored, changed⟩ := told "Stored" _ rfl
  obtain rfl : .text "08:00" = since := by
    have always : Holds (some (initial "Ready" "True")) (own (.text "Ready") storing) := by
      have twice : (own (.text "Ready") storing).map (·.update.status) = ["True", "True"] := rfl
      refine ⟨_, rfl, fun revision member => ?_⟩
      have status := List.mem_map_of_mem (f := (·.update.status)) member
      obtain same : revision.update.status = "True" := by simpa [twice] using status
      rw [same]
      rfl
    exact Option.some.inj (held.held _ rfl always)
  obtain rfl : .text "11:00" = last := by
    have never : ¬Holds none (own (.text "Stored") storing) := fun ⟨_, absent, _⟩ => nomatch absent
    exact Option.some.inj (changed.changed never)
  exact ⟨conditions, left, types, kept 1 _ rfl rfl, ready, stored⟩

end Conditions

/-! ## Conditions of documents -/

namespace Document

open Conditions

theorem apply_conditionsIn (update : ConditionUpdate) (now : String) (status : Fields) :
    update.apply now (conditionsIn status) = .ok (conditionsIn (withCondition update now status)) := by
  obtain ⟨updated, applied, -⟩ := update.apply_maps now (conditionsIn_maps status)
  obtain ⟨items, found, maps, -⟩ := conveys_withCondition update now status
  have same : updated = items := by
    have written : (withCondition update now status).get? "conditions" = some (.list updated) := by
      rw [withCondition, applied, Fields.get?_set, if_pos rfl]
    exact Value.list.inj (Option.some.inj (written.symm.trans found))
  have all : conditionsIn (withCondition update now status) = items := by
    rw [conditionsIn, found]
    exact List.filter_eq_self.mpr maps
  rw [applied, all, same]

/-- Conditions that are written one after the other, where the observed state is a map, are those of the
document after the same revisions. -/
theorem conditions_revised {doc : Document} {status : Fields} (stated : doc.statusFields = .ok status)
    (history : List Revision) :
    let edits : Edit Unit := history.forM fun revision => setCondition revision.update revision.time
    answer edits doc = .ok () ∧
      (final edits doc).conditions = revised (conditionsIn status) history := by
  induction history generalizing doc status with
  | nil => exact ⟨rfl, conditions_of_statusFields stated⟩
  | cons revision rest ih =>
      obtain ⟨answered, left⟩ := restates_setCondition revision.update revision.time doc status stated
      obtain ⟨done, conditions⟩ := ih left
      have first : revised (conditionsIn status) (revision :: rest) =
          revised (conditionsIn (withCondition revision.update revision.time status)) rest := by
        unfold revised
        rw [List.foldlM_cons, apply_conditionsIn]
        rfl
      change answer (setCondition revision.update revision.time >>= fun _ => _) doc = _ ∧
        (final (setCondition revision.update revision.time >>= fun _ => _) doc).conditions = _
      rw [answer_bind_ok answered, final_bind_ok answered, first]
      exact ⟨done, conditions⟩

end Document

end Reconciler
