import Reconciler.Proofs.Value.Access

/-!
# Values that have not changed

A value has not changed when it reads the same part by part, in maps under each key.  Every value in which
no map has a key twice is unchanged from itself, and writing what already stands under a key, or removing
what does not stand there, leaves a map as it is.  Values without floating-point numbers that read the same
are equal, so that a computed value can be compared with a written one.
-/

namespace Reconciler

namespace Scalar

theorem sameKey_self (key : Scalar) : key.sameKey key = true := by
  cases key <;> simp [sameKey, equalBy]

end Scalar

namespace Fields

theorem mem_of_get? {fields : Fields} {name : String} {value : Value}
    (found : fields.get? name = some value) : (.text name, value) ∈ fields := by
  induction fields with
  | nil => contradiction
  | cons entry rest ih =>
      obtain ⟨key, other⟩ := entry
      rw [get?_cons] at found
      split at found
      next here =>
        obtain rfl := (Scalar.sameKey_text_iff key name).mp here
        simp [Option.some.inj found]
      next => simp [ih found]

theorem set_of_get? {fields : Fields} {name : String} {value : Value}
    (found : fields.get? name = some value) : fields.set name value = fields := by
  induction fields with
  | nil => contradiction
  | cons entry rest ih =>
      obtain ⟨key, other⟩ := entry
      rw [get?_cons] at found
      unfold set put
      split at found
      next here => rw [if_pos here, Option.some.inj found]
      next away => rw [if_neg away]; exact congrArg _ (ih found)

theorem drop_of_get?_eq_none {fields : Fields} {name : String} (absent : fields.get? name = none) :
    drop (.text name) fields = fields := by
  induction fields with
  | nil => rfl
  | cons entry rest ih =>
      obtain ⟨key, other⟩ := entry
      rw [get?_cons] at absent
      split at absent
      next => contradiction
      next away =>
        simpa [drop, away] using ih absent

/-- No key stands twice. -/
def Distinct (fields : Fields) : Prop :=
  fields.Pairwise fun a b => a.1.sameKey b.1 = false

theorem find?_of_mem {fields : Fields} (distinct : fields.Distinct) {key : Scalar} {value : Value}
    (member : (key, value) ∈ fields) : fields.find? key = some value := by
  induction fields with
  | nil => contradiction
  | cons entry rest ih =>
      obtain ⟨first, others⟩ := List.pairwise_cons.mp distinct
      rcases List.mem_cons.mp member with rfl | later
      · simp [find?, Scalar.sameKey_self]
      · have away : entry.1.sameKey key = false := first _ later
        simp only [find?, away]
        exact ih others later

theorem mem_put {key : Scalar} {value : Value} {fields : Fields} {entry : Scalar × Value}
    (member : entry ∈ put key value fields) :
    entry ∈ fields ∨ entry.2 = value ∧ (entry.1 = key ∨ ∃ old, (entry.1, old) ∈ fields) := by
  induction fields with
  | nil =>
      obtain rfl := List.mem_singleton.mp member
      exact .inr ⟨rfl, .inl rfl⟩
  | cons head rest ih =>
      obtain ⟨first, old⟩ := head
      unfold put at member
      split at member
      · rcases List.mem_cons.mp member with rfl | later
        · exact .inr ⟨rfl, .inr ⟨old, by simp⟩⟩
        · exact .inl (by simp [later])
      · rcases List.mem_cons.mp member with rfl | later
        · exact .inl (by simp)
        · rcases ih later with there | ⟨same, rfl | ⟨w, there⟩⟩
          · exact .inl (by simp [there])
          · exact .inr ⟨same, .inl rfl⟩
          · exact .inr ⟨same, .inr ⟨w, by simp [there]⟩⟩

theorem Distinct.put {fields : Fields} (distinct : fields.Distinct) (key : Scalar) (value : Value) :
    Distinct (put key value fields) := by
  induction fields with
  | nil => exact List.pairwise_singleton _ _
  | cons entry rest ih =>
      obtain ⟨first, old⟩ := entry
      obtain ⟨apart, others⟩ := List.pairwise_cons.mp distinct
      unfold Fields.put
      split
      · exact List.pairwise_cons.mpr ⟨apart, others⟩
      next away =>
        refine List.pairwise_cons.mpr ⟨fun other member => ?_, ih others⟩
        rcases mem_put member with there | ⟨-, same | ⟨w, there⟩⟩
        · exact apart other there
        · rw [same]
          simpa using away
        · exact apart (other.1, w) there

end Fields

namespace Value

/-- No map in the value has a key twice. -/
inductive Proper : Value → Prop where
  /-- A scalar has no maps. -/
  | scalar (s : Scalar) : Proper (.scalar s)
  /-- All items of the list are proper. -/
  | list {items : List Value} (parts : ∀ item ∈ items, Proper item) : Proper (.list items)
  /-- The keys of the map are distinct, and all its values are proper. -/
  | map {fields : Fields} (keys : fields.Distinct) (parts : ∀ entry ∈ fields, Proper entry.2) :
    Proper (.map fields)

theorem equalItems_self {float : Float → Float → Bool} {items : List Value}
    (parts : ∀ item ∈ items, equalBy float item item = true) :
    equalItems float items items = true := by
  induction items with
  | nil => rfl
  | cons item rest ih =>
      unfold equalItems
      rw [parts item (by simp), ih fun other member => parts other (by simp [member])]
      rfl

theorem equalEntries_iff {float : Float → Float → Bool} (as bs : Fields) :
    equalEntries float as bs = true ↔
      ∀ entry ∈ as, ∃ value, bs.find? entry.1 = some value ∧ equalBy float entry.2 value = true := by
  induction as with
  | nil => simp [equalEntries]
  | cons entry rest ih =>
      obtain ⟨key, value⟩ := entry
      unfold equalEntries
      rw [Bool.and_eq_true, ih, List.forall_mem_cons]
      cases Fields.find? key bs <;> simp

theorem Proper.unchanged {v : Value} (proper : v.Proper) : v.unchanged v = true := by
  unfold Value.unchanged
  induction proper with
  | scalar s =>
      unfold equalBy
      exact s.sameKey_self
  | list _ ih =>
      unfold equalBy
      exact equalItems_self ih
  | @map fields keys _ ih =>
      unfold equalBy
      rw [beq_self_eq_true, Bool.true_and, equalEntries_iff]
      exact fun entry member => ⟨entry.2, Fields.find?_of_mem keys member, ih entry member⟩

theorem eq_text_of_equalBy {float : Float → Float → Bool} {text : String} {v : Value}
    (same : equalBy float (.text text) v = true) : v = .text text := by
  cases v with
  | scalar s =>
      unfold equalBy at same
      cases s with
      | text other =>
          have equal : text = other := by simpa [Scalar.equalBy] using same
          rw [equal]
      | _ => simp [Scalar.equalBy, Scalar.reading?] at same
  | list items => simp [equalBy] at same
  | map fields => simp [equalBy] at same

/-- A text in a map that has not changed stood there before. -/
theorem get?_of_unchanged {now before : Fields} {name text : String}
    (same : (map now).unchanged (map before) = true) (found : now.get? name = some (.text text)) :
    before.get? name = some (.text text) := by
  unfold unchanged equalBy at same
  rw [Bool.and_eq_true, equalEntries_iff] at same
  obtain ⟨value, stood, equal⟩ := same.2 _ (Fields.mem_of_get? found)
  rw [eq_text_of_equalBy equal] at stood
  exact stood

namespace Proper

variable {fields : Fields}

@[simp]
theorem text (s : String) : Proper (.text s) :=
  .scalar _

theorem of_mem {items : List Value} (proper : (Value.list items).Proper) {item : Value}
    (member : item ∈ items) : item.Proper := by
  cases proper with
  | list parts => exact parts item member

theorem of_get? (proper : (Value.map fields).Proper) {name : String} {value : Value}
    (found : fields.get? name = some value) : value.Proper := by
  cases proper with
  | map _ parts => exact parts _ (Fields.mem_of_get? found)

theorem nil : (Value.map []).Proper :=
  .map .nil (by simp)

theorem set (proper : (Value.map fields).Proper) (name : String) {value : Value} (own : value.Proper) :
    (Value.map (fields.set name value)).Proper := by
  cases proper with
  | map keys parts =>
      refine .map (keys.put _ _) fun entry member => ?_
      rcases Fields.mem_put member with there | ⟨same, -⟩
      · exact parts entry there
      · rw [same]
        exact own

theorem drop (proper : (Value.map fields).Proper) (key : Scalar) :
    (Value.map (fields.drop key)).Proper := by
  cases proper with
  | map keys parts =>
      exact .map (keys.filter _) fun entry member => parts entry (List.mem_filter.mp member).1

end Proper

end Value

/-! ## Equal values -/

namespace Scalar

/-- The scalars are equal, and are none that computation cannot tell apart. -/
def isSame : Scalar → Scalar → Bool
  | .null, .null => true
  | .bool a, .bool b => a == b
  | .int a, .int b => a == b
  | .text a, .text b => a == b
  | _, _ => false

theorem eq_of_isSame {s t : Scalar} (same : s.isSame t = true) : s = t := by
  cases s <;> cases t <;> simp_all [isSame]

end Scalar

namespace Value

mutual

/-- The values are equal, and are made of scalars that computation can tell apart. -/
def isSame : Value → Value → Bool
  | .scalar s, .scalar t => s.isSame t
  | .list xs, .list ys => areSame xs ys
  | .map xs, .map ys => haveSame xs ys
  | _, _ => false

/-- The items of two lists are equal, one by one. -/
def areSame : List Value → List Value → Bool
  | [], [] => true
  | x :: xs, y :: ys => x.isSame y && areSame xs ys
  | _, _ => false

/-- The entries of two maps are equal, one by one. -/
def haveSame : List (Scalar × Value) → List (Scalar × Value) → Bool
  | [], [] => true
  | (key, x) :: xs, (other, y) :: ys => key.isSame other && (x.isSame y && haveSame xs ys)
  | _, _ => false

end

mutual

theorem eq_of_isSame : ∀ {v w : Value}, v.isSame w = true → v = w
  | .scalar _, .scalar _, same => congrArg Value.scalar (Scalar.eq_of_isSame same)
  | .list _, .list _, same => congrArg Value.list (eq_of_areSame same)
  | .map _, .map _, same => congrArg Value.map (eq_of_haveSame same)

theorem eq_of_areSame : ∀ {xs ys : List Value}, areSame xs ys = true → xs = ys
  | [], [], _ => rfl
  | x :: xs, y :: ys, same => by
      rw [areSame, Bool.and_eq_true] at same
      rw [eq_of_isSame same.1, eq_of_areSame same.2]

theorem eq_of_haveSame : ∀ {xs ys : List (Scalar × Value)}, haveSame xs ys = true → xs = ys
  | [], [], _ => rfl
  | (key, x) :: xs, (other, y) :: ys, same => by
      rw [haveSame, Bool.and_eq_true, Bool.and_eq_true] at same
      obtain ⟨keys, values, behind⟩ := same
      rw [Scalar.eq_of_isSame keys, eq_of_isSame values, eq_of_haveSame behind]

end

end Value

end Reconciler
