import Reconciler.Backend.Descriptor

/-!
# Named texts

A text that is bound to a name is the only one that the name has afterwards, and other names keep theirs.
Bindings that are written over others win, the last one of a name at that.  Where no name stands twice, the
order of the names does not matter.
-/

namespace Reconciler.Bindings

theorem mem_names_bind {bindings : Bindings} {name other text : String} :
    other ∈ names (bind name text bindings) ↔ other = name ∨ other ∈ names bindings := by
  induction bindings with
  | nil => simp [bind, names]
  | cons entry rest ih =>
      obtain ⟨own, old⟩ := entry
      unfold bind
      split
      next same =>
        rw [beq_iff_eq] at same
        simp [names, same]
      next apart =>
        simp only [names, List.map_cons, List.mem_cons] at ih ⊢
        rw [ih]
        exact or_left_comm

theorem get?_cons (own text : String) (rest : Bindings) (name : String) :
    get? ((own, text) :: rest) name = if name = own then some text else get? rest name := by
  unfold get?
  by_cases same : name = own
  · simp [same]
  · simp [List.lookup_cons, beq_eq_false_iff_ne.mpr same, same]

theorem get?_bind (bindings : Bindings) (name other text : String) :
    get? (bind name text bindings) other = if other = name then some text else get? bindings other := by
  induction bindings with
  | nil => exact get?_cons name text [] other
  | cons entry rest ih =>
      obtain ⟨own, old⟩ := entry
      unfold bind
      split
      next first =>
        obtain rfl := beq_iff_eq.mp first
        rw [get?_cons, get?_cons]
        split <;> rfl
      next apart =>
        have apart : own ≠ name := fun same => apart (beq_iff_eq.mpr same)
        rw [get?_cons, get?_cons, ih]
        by_cases same : other = own
        · simp [same, apart]
        · simp [same]

theorem exists_get?_iff {bindings : Bindings} {name : String} :
    (∃ text, get? bindings name = some text) ↔ name ∈ names bindings := by
  induction bindings with
  | nil => simp [get?, names]
  | cons entry rest ih =>
      obtain ⟨own, text⟩ := entry
      rw [get?_cons, names, List.map_cons, List.mem_cons]
      by_cases same : name = own
      · simp [same]
      · simpa only [same, if_false, false_or, names] using ih

theorem filter_bind_self (bindings : Bindings) (name text : String) :
    (bind name text bindings).filter (·.1 == name) =
      (name, text) :: (bindings.filter (·.1 == name)).tail := by
  induction bindings with
  | nil => simp [bind]
  | cons entry rest ih =>
      obtain ⟨own, old⟩ := entry
      by_cases same : own = name
      · simp [bind, same]
      · simpa [bind, same] using ih

theorem filter_bind_of_ne {bindings : Bindings} {name other text : String} (apart : name ≠ other) :
    (bind name text bindings).filter (·.1 == other) = bindings.filter (·.1 == other) := by
  induction bindings with
  | nil => simp [bind, apart]
  | cons entry rest ih =>
      obtain ⟨own, old⟩ := entry
      by_cases same : own = name
      · simp [bind, same, apart]
      · simp [bind, same, List.filter_cons, ih]

/-! ## Bindings over others -/

/-- The text that a name was given last. -/
def last? (bindings : Bindings) (name : String) : Option String :=
  get? bindings.reverse name

theorem last?_cons (own text : String) (rest : Bindings) (name : String) :
    last? ((own, text) :: rest) name = (last? rest name).or (get? [(own, text)] name) := by
  rw [last?, List.reverse_cons, get?, List.lookup_append]
  rfl

theorem get?_merge (bindings later : Bindings) (name : String) :
    get? (merge bindings later) name = (last? later name).or (get? bindings name) := by
  induction later generalizing bindings with
  | nil => rfl
  | cons entry rest ih =>
      obtain ⟨own, text⟩ := entry
      have merged : merge bindings ((own, text) :: rest) = merge (bind own text bindings) rest := rfl
      rw [merged, ih, get?_bind, last?_cons, get?_cons, Option.or_assoc]
      split <;> rfl

/-! ## Names that stand once -/

theorem nodup_names_bind {bindings : Bindings} (nodup : bindings.names.Nodup) (name text : String) :
    (bind name text bindings).names.Nodup := by
  induction bindings with
  | nil => simp [bind, names]
  | cons entry rest ih =>
      obtain ⟨own, old⟩ := entry
      obtain ⟨first, rest_nodup⟩ := List.nodup_cons.mp nodup
      unfold bind
      split
      next same => exact nodup
      next apart =>
        refine List.nodup_cons.mpr ⟨fun mem => ?_, ih rest_nodup⟩
        obtain same | mem := mem_names_bind.mp mem
        · exact apart (beq_iff_eq.mpr same)
        · exact first mem

theorem nodup_names_merge {bindings : Bindings} (nodup : bindings.names.Nodup) (later : Bindings) :
    (merge bindings later).names.Nodup := by
  induction later generalizing bindings with
  | nil => exact nodup
  | cons entry rest ih => exact ih (nodup_names_bind nodup entry.1 entry.2)

section Once

variable {α β : Type} [BEq α] [LawfulBEq α] {entries other : List (α × β)} {key : α} {value : β}

theorem lookup_eq_some_iff (nodup : (entries.map Prod.fst).Nodup) :
    entries.lookup key = some value ↔ (key, value) ∈ entries := by
  induction entries with
  | nil => simp
  | cons entry rest ih =>
      obtain ⟨own, old⟩ := entry
      obtain ⟨first, nodup⟩ := List.nodup_cons.mp nodup
      rw [List.lookup_cons, List.mem_cons, Prod.mk.injEq]
      split
      next same =>
        obtain rfl := beq_iff_eq.mp same
        have elsewhere : (key, value) ∉ rest := fun mem => first (List.mem_map.mpr ⟨_, mem, rfl⟩)
        simp [elsewhere, eq_comm]
      next apart => simp [beq_eq_false_iff_ne.mp apart, ih nodup]

/-- The order of keys that stand once does not matter. -/
theorem lookup_of_perm (nodup : (entries.map Prod.fst).Nodup) (same : other.Perm entries) (key : α) :
    other.lookup key = entries.lookup key := by
  have other_nodup : (other.map Prod.fst).Nodup := (same.map Prod.fst).nodup_iff.mpr nodup
  ext value
  rw [lookup_eq_some_iff nodup, lookup_eq_some_iff other_nodup, same.mem_iff]

end Once

end Reconciler.Bindings
