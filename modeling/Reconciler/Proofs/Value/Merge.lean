import Reconciler.Proofs.Value.Unchanged

/-!
# Maps written over one another

A map that is written over another one replaces values in their places, and its new keys follow in their
order.  A key reads as the later map has it, else as the earlier one had it; no key and no value comes from
elsewhere.
-/

namespace Reconciler

namespace Scalar

theorem text_sameKey_iff (name : String) (key : Scalar) :
    (text name).sameKey key = true ↔ key = text name := by
  cases key with
  | text other => exact beq_iff_eq.trans ⟨fun same => same ▸ rfl, fun same => (text.inj same).symm⟩
  | _ => simp [sameKey, equalBy, reading?]

theorem text_sameKey_comm (name : String) (key : Scalar) :
    (text name).sameKey key = key.sameKey (text name) :=
  Bool.eq_iff_iff.mpr ((text_sameKey_iff name key).trans (sameKey_text_iff key name).symm)

end Scalar

namespace Fields

theorem filter_put_self (fields : Fields) (name : String) (value : Value) :
    (put (.text name) value fields).filter (·.1.sameKey (.text name)) =
      (.text name, value) :: (fields.filter (·.1.sameKey (.text name))).tail := by
  induction fields with
  | nil => simp [put, Scalar.sameKey_self]
  | cons entry rest ih =>
      obtain ⟨own, old⟩ := entry
      cases same : own.sameKey (.text name) with
      | true =>
          obtain rfl := (Scalar.sameKey_text_iff own name).mp same
          simp [put, same]
      | false => simpa [put, same] using ih

theorem filter_put_of_ne {fields : Fields} {key : Scalar} {name : String} {value : Value}
    (apart : key ≠ .text name) :
    (put key value fields).filter (·.1.sameKey (.text name)) =
      fields.filter (·.1.sameKey (.text name)) := by
  have missed : key.sameKey (.text name) = false :=
    Bool.eq_false_iff.mpr fun same => apart ((Scalar.sameKey_text_iff key name).mp same)
  induction fields with
  | nil => simp [put, missed]
  | cons entry rest ih =>
      obtain ⟨own, old⟩ := entry
      cases same : own.sameKey key with
      | false => simp [put, same, List.filter_cons, ih]
      | true =>
          have own_missed : own.sameKey (.text name) = false := by
            refine Bool.eq_false_iff.mpr fun named => apart ?_
            obtain rfl := (Scalar.sameKey_text_iff own name).mp named
            exact (Scalar.text_sameKey_iff name key).mp same
          simp [put, same, own_missed]

theorem get?_eq_head? (fields : Fields) (name : String) :
    fields.get? name = (fields.filter (·.1.sameKey (.text name))).head?.map Prod.snd := by
  induction fields with
  | nil => rfl
  | cons entry rest ih =>
      rw [get?_cons, ih, List.filter_cons]
      split <;> rfl

theorem get?_put (key : Scalar) (value : Value) (fields : Fields) (name : String) :
    get? (put key value fields) name =
      if key.sameKey (.text name) then some value else fields.get? name := by
  rw [get?_eq_head?, get?_eq_head?]
  split
  next same =>
    rw [(Scalar.sameKey_text_iff key name).mp same, filter_put_self]
    rfl
  next apart => rw [filter_put_of_ne (mt (Scalar.sameKey_text_iff key name).mpr apart)]

theorem get?_eq_none_of_apart {fields : Fields} {name : String}
    (apart : ∀ entry ∈ fields, (Scalar.text name).sameKey entry.1 = false) : fields.get? name = none := by
  by_contra found
  obtain ⟨value, found⟩ := Option.ne_none_iff_exists'.mp found
  have missed := apart _ (mem_of_get? found)
  rw [Scalar.sameKey_self] at missed
  contradiction

theorem merge_cons (fields : Fields) (entry : Scalar × Value) (later : Fields) :
    merge fields (entry :: later) = merge (put entry.1 entry.2 fields) later := rfl

/-- A key reads as the later map has it, else as the earlier one had it. -/
theorem get?_merge {fields later : Fields} (distinct : later.Distinct) (name : String) :
    get? (merge fields later) name = (get? later name).or (get? fields name) := by
  induction later generalizing fields with
  | nil => rfl
  | cons entry rest ih =>
      obtain ⟨key, value⟩ := entry
      obtain ⟨apart, others⟩ := List.pairwise_cons.mp distinct
      rw [merge_cons, ih others, get?_put, get?_cons]
      split
      next same =>
        obtain rfl := (Scalar.sameKey_text_iff key name).mp same
        rw [get?_eq_none_of_apart apart]
        rfl
      next => rfl

theorem Distinct.merge {fields : Fields} (distinct : fields.Distinct) (later : Fields) :
    Distinct (merge fields later) := by
  induction later generalizing fields with
  | nil => exact distinct
  | cons entry rest ih => exact ih (distinct.put entry.1 entry.2)

/-! ## Keys and values -/

section Members

variable {fields later : Fields} {key : Scalar} {value : Value} {name : String}

theorem text_mem_keys_put :
    .text name ∈ (put key value fields).map Prod.fst ↔
      key = .text name ∨ .text name ∈ fields.map Prod.fst := by
  induction fields with
  | nil => simp [put, eq_comm]
  | cons entry rest ih =>
      obtain ⟨own, old⟩ := entry
      unfold put
      split
      next same =>
        have own_of_key (eq : key = .text name) : own = .text name :=
          (Scalar.sameKey_text_iff own name).mp (eq ▸ same)
        simp only [List.map_cons, List.mem_cons]
        exact ⟨.inr, fun mem => mem.elim (fun eq => .inl (own_of_key eq).symm) id⟩
      next apart =>
        simp only [List.map_cons, List.mem_cons, ih]
        exact or_left_comm

theorem text_mem_keys_merge :
    .text name ∈ (merge fields later).map Prod.fst ↔
      .text name ∈ fields.map Prod.fst ∨ .text name ∈ later.map Prod.fst := by
  unfold merge
  induction later generalizing fields with
  | nil => simp
  | cons entry rest ih =>
      rw [List.foldl_cons, ih, text_mem_keys_put, List.map_cons, List.mem_cons, or_assoc, or_left_comm,
        eq_comm]

theorem mem_values_put {other : Value} (mem : other ∈ (put key value fields).values) :
    other = value ∨ other ∈ fields.values := by
  obtain ⟨entry, member, rfl⟩ := List.mem_map.mp mem
  rcases mem_put member with there | ⟨same, -⟩
  · exact .inr (List.mem_map_of_mem there)
  · exact .inl same

theorem mem_values_merge {other : Value} (mem : other ∈ (merge fields later).values) :
    other ∈ fields.values ∨ other ∈ later.values := by
  unfold merge at mem
  induction later generalizing fields with
  | nil => exact .inl mem
  | cons entry rest ih =>
      obtain mem | mem := ih mem
      · obtain rfl | mem := mem_values_put mem
        · exact .inr List.mem_cons_self
        · exact .inl mem
      · exact .inr (List.mem_cons_of_mem _ mem)

end Members

/-! ## The order of the keys -/

/-- Every key is a text. -/
def Named (fields : Fields) : Prop :=
  ∀ entry ∈ fields, ∃ name, entry.1 = .text name

/-- The fields with the values of later ones in their places, and then the later fields with new keys. -/
def updated (fields later : Fields) : Fields :=
  fields.map (fun entry => (entry.1, (find? entry.1 later).getD entry.2)) ++
    later.filter fun entry => !has entry.1 fields

theorem has_eq_any (key : Scalar) (fields : Fields) : has key fields = fields.any (·.1.sameKey key) := by
  induction fields with
  | nil => rfl
  | cons entry rest ih =>
      obtain ⟨own, value⟩ := entry
      rw [List.any_cons, ← ih]
      unfold has
      rw [find?]
      cases own.sameKey key <;> rfl

theorem put_of_not_has {key : Scalar} {fields : Fields} (absent : has key fields = false) (value : Value) :
    put key value fields = fields ++ [(key, value)] := by
  rw [has_eq_any] at absent
  induction fields with
  | nil => rfl
  | cons entry rest ih =>
      obtain ⟨away, rest_away⟩ := Bool.or_eq_false_iff.mp absent
      rw [put, if_neg (Bool.eq_false_iff.mp away), ih rest_away]
      rfl

theorem merge_eq_append {fields later : Fields} (distinct : Distinct (fields ++ later)) :
    merge fields later = fields ++ later := by
  induction later generalizing fields with
  | nil => exact (List.append_nil fields).symm
  | cons entry rest ih =>
      have apart := (List.pairwise_append.mp distinct).2.2
      have absent : has entry.1 fields = false := by
        rw [has_eq_any, List.any_eq_false]
        exact fun own member => Bool.eq_false_iff.mp (apart own member entry List.mem_cons_self)
      rw [List.append_cons] at distinct ⊢
      rw [merge_cons, put_of_not_has absent, ih distinct]

theorem put_of_has {name : String} {fields : Fields} (distinct : fields.Distinct)
    (present : has (.text name) fields = true) (value : Value) :
    put (.text name) value fields =
      fields.map fun entry => (entry.1, if entry.1.sameKey (.text name) then value else entry.2) := by
  induction fields with
  | nil => contradiction
  | cons entry rest ih =>
      obtain ⟨key, old⟩ := entry
      obtain ⟨apart, others⟩ := List.pairwise_cons.mp distinct
      rw [put, List.map_cons]
      by_cases here : key.sameKey (.text name) = true
      · obtain rfl := (Scalar.sameKey_text_iff key name).mp here
        have kept (entry) (member : entry ∈ rest) :
            (entry.1, if entry.1.sameKey (.text name) then value else entry.2) = entry := by
          have away : ¬entry.1.sameKey (.text name) = true := fun same => by
            have missed := apart entry member
            rw [(Scalar.sameKey_text_iff _ _).mp same, Scalar.sameKey_self] at missed
            contradiction
          rw [if_neg away]
        rw [if_pos here, if_pos here, (List.map_congr_left kept).trans (List.map_id' rest)]
      · rw [has_eq_any, List.any_cons, Bool.eq_false_iff.mpr here, Bool.false_or, ← has_eq_any] at present
        rw [if_neg here, if_neg here, ih others present]

section Updated

variable {fields later : Fields} {name : String}

/-- A value that is put in its place is a later value of an old key. -/
theorem updated_put_of_has (distinct : fields.Distinct) (present : has (.text name) fields = true)
    (absent : find? (.text name) later = none) (value : Value) :
    updated (put (.text name) value fields) later = fields.updated ((.text name, value) :: later) := by
  rw [put_of_has distinct present, updated, updated, List.map_map, List.filter_cons, present]
  congr 1
  · refine List.map_congr_left fun own _ => ?_
    rw [Function.comp_apply, find?, Scalar.text_sameKey_comm]
    split
    next same =>
      rw [(Scalar.sameKey_text_iff _ _).mp same, absent]
      rfl
    next => rfl
  · refine List.filter_congr fun other _ => ?_
    rw [has_eq_any, has_eq_any, List.any_map]
    rfl

/-- A value that is put at the end is that of a new key. -/
theorem updated_put_of_not_has (missing : has (.text name) fields = false)
    (apart : ∀ entry ∈ later, (Scalar.text name).sameKey entry.1 = false) (value : Value) :
    updated (put (.text name) value fields) later = fields.updated ((.text name, value) :: later) := by
  have absent : find? (.text name) later = none := get?_eq_none_of_apart apart
  rw [put_of_not_has missing, updated, updated, List.filter_cons, missing, List.map_append,
    List.append_assoc]
  congr 1
  · refine List.map_congr_left fun own member => ?_
    rw [find?, Scalar.text_sameKey_comm, if_neg]
    intro same
    rw [has_eq_any] at missing
    exact List.any_eq_false.mp missing own member same
  · rw [List.map_singleton, absent]
    refine congrArg _ (List.filter_congr fun other member => ?_)
    rw [has_eq_any, has_eq_any, List.any_append, List.any_cons, List.any_nil, Bool.or_false,
      apart other member, Bool.or_false]

/-- Where no key stands twice, the map has its keys in their order, with the later values, and then the new
keys in theirs. -/
theorem merge_eq_updated (distinct : fields.Distinct) (later_distinct : later.Distinct)
    (named : later.Named) : merge fields later = fields.updated later := by
  induction later generalizing fields with
  | nil => simp [merge, updated, find?]
  | cons entry rest ih =>
      obtain ⟨key, value⟩ := entry
      obtain ⟨apart, others⟩ := List.pairwise_cons.mp later_distinct
      obtain ⟨⟨name, rfl⟩, rest_named⟩ := List.forall_mem_cons.mp named
      rw [merge_cons, ih (distinct.put _ _) others rest_named]
      cases present : has (.text name) fields with
      | true => exact updated_put_of_has distinct present (get?_eq_none_of_apart apart) value
      | false => exact updated_put_of_not_has present apart value

end Updated

end Fields

end Reconciler
