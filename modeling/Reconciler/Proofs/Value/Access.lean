import Mathlib.Data.List.Basic
import Reconciler.Value.Access

/-!
# Reading after writing

A value that was written at a path is read back there, and what was removed is not read any more.
Paths that lead elsewhere read as before, including the way in which they fail: two paths are apart
when neither begins with the other, and no write or removal at a path shows at a path apart from it.
-/

namespace Reconciler

namespace Scalar

theorem equalBy_text_iff (float : Float → Float → Bool) (scalar : Scalar) (name : String) :
    scalar.equalBy float (.text name) = true ↔ scalar = .text name := by
  cases scalar with
  | text s => simp [equalBy]
  | _ => simp [equalBy, reading?]

theorem sameKey_text_iff (key : Scalar) (name : String) :
    key.sameKey (.text name) = true ↔ key = .text name :=
  equalBy_text_iff _ key name

end Scalar

namespace Fields

@[simp]
theorem get?_nil (name : String) : get? [] name = none := rfl

theorem get?_cons (key : Scalar) (value : Value) (rest : Fields) (name : String) :
    get? ((key, value) :: rest) name =
      if key.sameKey (.text name) then some value else get? rest name := rfl

theorem get?_set (fields : Fields) (name other : String) (value : Value) :
    (fields.set name value).get? other = if name = other then some value else fields.get? other := by
  induction fields with
  | nil =>
      rw [show Fields.set [] name value = [(.text name, value)] from rfl, get?_cons]
      simp only [Scalar.sameKey_text_iff, Scalar.text.injEq, get?_nil]
  | cons entry rest ih =>
      obtain ⟨key, old⟩ := entry
      unfold Fields.set Fields.put
      by_cases here : key.sameKey (.text name) = true
      · obtain rfl := (Scalar.sameKey_text_iff key name).mp here
        simp only [here, if_true, get?_cons, Scalar.sameKey_text_iff, Scalar.text.injEq]
        split <;> rfl
      · rw [if_neg here, get?_cons, get?_cons]
        by_cases found : key.sameKey (.text other) = true
        · obtain rfl := (Scalar.sameKey_text_iff key other).mp found
          have apart : name ≠ other := by
            rintro rfl
            exact here found
          simp [apart, found]
        · rw [if_neg found, if_neg found]
          exact ih

theorem get?_drop (fields : Fields) (name other : String) :
    get? (drop (.text name) fields) other = if name = other then none else fields.get? other := by
  induction fields with
  | nil => simp [drop]
  | cons entry rest ih =>
      obtain ⟨key, value⟩ := entry
      by_cases here : key.sameKey (.text name) = true
      · obtain rfl := (Scalar.sameKey_text_iff key name).mp here
        rw [show drop (.text name) ((.text name, value) :: rest) = drop (.text name) rest by
          simp [drop, here], ih, get?_cons]
        simp only [Scalar.sameKey_text_iff, Scalar.text.injEq]
        split <;> rfl
      · rw [show drop (.text name) ((key, value) :: rest) = (key, value) :: drop (.text name) rest by
          simp [drop, here], get?_cons, get?_cons, ih]
        by_cases found : key.sameKey (.text other) = true
        · obtain rfl := (Scalar.sameKey_text_iff key other).mp found
          have apart : name ≠ other := by
            rintro rfl
            exact here found
          simp [apart, found]
        · rw [if_neg found, if_neg found]

end Fields

/-- Neither path begins with the other. -/
def Apart (p q : List String) : Prop :=
  ¬p <+: q ∧ ¬q <+: p

namespace Apart

instance (p q : List String) : Decidable (Apart p q) :=
  inferInstanceAs (Decidable (¬p <+: q ∧ ¬q <+: p))

variable {p q : List String} {a b : String}

@[simp]
theorem not_nil_left : ¬Apart [] q := by
  simp [Apart]

@[simp]
theorem not_nil_right : ¬Apart p [] := by
  simp [Apart]

@[simp]
theorem cons_iff : Apart (a :: p) (b :: q) ↔ a ≠ b ∨ Apart p q := by
  unfold Apart
  rw [List.cons_prefix_cons, List.cons_prefix_cons]
  by_cases same : a = b
  · simp [same]
  · simp [same, Ne.symm same]

end Apart

namespace Value

theorem equal_text_iff (v : Value) (text : String) :
    v.equal (.text text) = true ↔ v = .text text := by
  cases v with
  | scalar s =>
      unfold equal equalBy Value.text
      rw [Scalar.equalBy_text_iff, scalar.injEq]
  | list items => simp [equal, Value.text, equalBy]
  | map fields => simp [equal, Value.text, equalBy]

theorem fields?_eq_some_iff {v : Value} {fields : Fields} :
    v.fields? = some fields ↔ v = .map fields := by
  cases v <;> simp [fields?]

theorem items?_eq_some_iff {v : Value} {items : List Value} :
    v.items? = some items ↔ v = .list items := by
  cases v <;> simp [items?]

theorem items?_eq_none_iff {v : Value} : v.items? = none ↔ ∀ items, v ≠ .list items := by
  cases v <;> simp [items?]

theorem text?_eq_some_iff {v : Value} {text : String} :
    v.text? = some text ↔ v = .text text := by
  cases v with
  | scalar s => cases s <;> simp [text?, Value.text]
  | _ => simp [text?, Value.text]

@[simp]
theorem follow_nil (v : Value) : v.follow [] = .ok v := by
  cases v <;> rfl

theorem follow_map (fields : Fields) (key : String) (rest : List String) :
    (map fields).follow (key :: rest) =
      match fields.get? key with
      | none => .error .absent
      | some v => (v.follow rest).mapError PathFault.outer := rfl

theorem follow_set_self (fields : Fields) (key : String) (value : Value) (rest : List String) :
    (map (fields.set key value)).follow (key :: rest) =
      (value.follow rest).mapError PathFault.outer := by
  rw [follow_map, Fields.get?_set, if_pos rfl]

theorem follow_set_of_ne (fields : Fields) {key other : String} (ne : key ≠ other) (value : Value)
    (rest : List String) :
    (map (fields.set key value)).follow (other :: rest) = (map fields).follow (other :: rest) := by
  rw [follow_map, follow_map, Fields.get?_set, if_neg ne]

/-! ## Writing -/

theorem follow_nest_self (value : Value) (path : List String) :
    (nest value path).follow path = .ok value := by
  induction path with
  | nil => simp [nest]
  | cons key rest ih =>
      change (map (Fields.set [] key (nest value rest))).follow (key :: rest) = _
      rw [follow_set_self, ih]
      rfl

theorem follow_nest_of_apart (value : Value) {path other : List String} (apart : Apart path other) :
    (nest value path).follow other = .error .absent := by
  induction path generalizing other with
  | nil => simp at apart
  | cons key rest ih =>
      cases other with
      | nil => simp at apart
      | cons step others =>
          change (map (Fields.set [] key (nest value rest))).follow (step :: others) = _
          by_cases same : key = step
          · subst same
            rw [follow_set_self, ih (by simpa using apart)]
            rfl
          · rw [follow_set_of_ne _ same]
            rfl

/-- What a write does to a map: it writes below one of its keys. -/
theorem write_map {fields : Fields} {key : String} {rest : List String} {value written : Value}
    (done : (map fields).write (key :: rest) value = .ok written) :
    ∃ inner, written = map (fields.set key inner) ∧
      (fields.get? key = none ∧ inner = nest value rest ∨
        (∃ v, fields.get? key = some v ∧ v.write rest value = .ok inner) ∨
        rest = [] ∧ inner = value) := by
  cases rest with
  | nil =>
      simp only [write, Except.ok.injEq] at done
      exact ⟨value, done.symm, .inr (.inr ⟨rfl, rfl⟩)⟩
  | cons next rest =>
      cases found : fields.get? key with
      | none =>
          simp only [write, found, Except.ok.injEq] at done
          exact ⟨_, done.symm, .inl ⟨rfl, rfl⟩⟩
      | some v =>
          simp only [write, found] at done
          cases below : v.write (next :: rest) value with
          | error fault => simp [below] at done
          | ok inner =>
              simp only [below, Except.ok.injEq] at done
              exact ⟨inner, done.symm, .inr (.inl ⟨v, rfl, below⟩)⟩

/-- Where a path leads to a value, another one can be written. -/
theorem exists_write_of_follow {v found : Value} {path : List String}
    (leads : v.follow path = .ok found) (value : Value) :
    ∃ written, v.write path value = .ok written := by
  induction path generalizing v with
  | nil => exact ⟨value, by simp [write]⟩
  | cons key rest ih =>
      cases v with
      | scalar s => contradiction
      | list items => contradiction
      | map fields =>
          rw [follow_map] at leads
          cases here : Fields.get? fields key with
          | none => simp [here] at leads
          | some inner =>
              cases rest with
              | nil => exact ⟨_, rfl⟩
              | cons next rest =>
                  have inner_leads : inner.follow (next :: rest) = .ok found := by
                    rw [here] at leads
                    cases below : inner.follow (next :: rest) with
                    | ok w => simpa [below, Except.mapError] using leads
                    | error fault => simp [below, Except.mapError] at leads
                  obtain ⟨written, done⟩ := ih inner_leads
                  exact ⟨map (Fields.set fields key written), by simp [write, here, done]⟩

/-- A value that was written is read back. -/
theorem follow_write {v value written : Value} {path : List String}
    (done : v.write path value = .ok written) : written.follow path = .ok value := by
  induction path generalizing v written with
  | nil =>
      simp only [write, Except.ok.injEq] at done
      simp [done]
  | cons key rest ih =>
      cases v with
      | scalar s => simp [write] at done
      | list items => simp [write] at done
      | map fields =>
          obtain ⟨inner, rfl, below⟩ := write_map done
          rw [follow_set_self]
          rcases below with ⟨-, rfl⟩ | ⟨v, -, below⟩ | ⟨rfl, rfl⟩
          · rw [follow_nest_self]
            rfl
          · rw [ih below]
            rfl
          · simp [Except.mapError]

/-- A write does not show at a path apart from it. -/
theorem follow_write_of_apart {v value written : Value} {path other : List String}
    (done : v.write path value = .ok written) (apart : Apart path other) :
    written.follow other = v.follow other := by
  induction path generalizing v written other with
  | nil => simp at apart
  | cons key rest ih =>
      cases v with
      | scalar s => simp [write] at done
      | list items => simp [write] at done
      | map fields =>
          cases other with
          | nil => simp at apart
          | cons step others =>
              obtain ⟨inner, rfl, below⟩ := write_map done
              by_cases same : key = step
              · subst same
                have apart : Apart rest others := by simpa using apart
                rw [follow_set_self, follow_map]
                rcases below with ⟨absent, rfl⟩ | ⟨v, found, below⟩ | ⟨rfl, -⟩
                · rw [absent, follow_nest_of_apart _ apart]
                  rfl
                · rw [found, ih below apart]
                · simp at apart
              · exact follow_set_of_ne fields same inner others

/-! ## Removing -/

theorem remove_member (fields : Fields) (key : String) :
    (map fields).remove [key] = map (Fields.drop (.text key) fields) := rfl

/-- What a removal below a key does to a map: nothing, unless the key leads to a map. -/
theorem remove_map (fields : Fields) (key next : String) (rest : List String) :
    (map fields).remove (key :: next :: rest) =
      match fields.get? key with
      | some (.map inner) => map (fields.set key ((map inner).remove (next :: rest)))
      | _ => map fields := rfl

theorem exists_map_of_remove (fields : Fields) (key : String) (rest : List String) :
    ∃ entries, (map fields).remove (key :: rest) = map entries := by
  cases rest with
  | nil => exact ⟨_, remove_member fields key⟩
  | cons next rest =>
      rw [remove_map]
      split <;> exact ⟨_, rfl⟩

/-- A removal does not show at a path apart from it. -/
theorem follow_remove_of_apart (v : Value) {path other : List String} (apart : Apart path other) :
    (v.remove path).follow other = v.follow other := by
  induction path generalizing v other with
  | nil => simp at apart
  | cons key rest ih =>
      cases v with
      | scalar s => rfl
      | list items => rfl
      | map fields =>
          cases other with
          | nil => simp at apart
          | cons step others =>
              cases rest with
              | nil =>
                  have ne : key ≠ step := by simpa using apart
                  rw [remove_member, follow_map, follow_map, Fields.get?_drop, if_neg ne]
              | cons next rest =>
                  rw [remove_map]
                  split
                  · next inner found =>
                      by_cases same : key = step
                      · subst same
                        rw [follow_set_self, follow_map, found, ih _ (by simpa using apart)]
                      · exact follow_set_of_ne fields same _ others
                  · rfl

theorem remove_of_not_map {v : Value} (other : ∀ fields, v ≠ .map fields) (path : List String) :
    v.remove path = v := by
  cases v with
  | map fields => exact absurd rfl (other fields)
  | scalar s => cases path <;> rfl
  | list items => cases path <;> rfl

/-- What a removal leaves of a value right above what is removed. -/
theorem follow_remove_below (v : Value) (path : List String) (key : String) :
    (v.remove (path ++ [key])).follow path = (v.follow path).map (·.remove [key]) := by
  induction path generalizing v with
  | nil => simp [Except.map]
  | cons outer rest ih =>
      cases v with
      | scalar s => rfl
      | list items => rfl
      | map fields =>
          obtain ⟨next, below, shape⟩ : ∃ next below, rest ++ [key] = next :: below :=
            List.exists_cons_of_ne_nil (by simp)
          have outwards (outcome : Except PathFault Value) :
              (outcome.map (·.remove [key])).mapError PathFault.outer =
                (outcome.mapError PathFault.outer).map (·.remove [key]) := by
            cases outcome <;> rfl
          rw [List.cons_append, shape, remove_map, ← shape]
          split
          · next inner found => rw [follow_set_self, follow_map, found, ih, outwards]
          -- No map stands below the key, so nothing is removed.
          · next unfit =>
              rw [follow_map]
              cases found : Fields.get? fields outer with
              | none => rfl
              | some inner =>
                  have left : inner.remove (rest ++ [key]) = inner :=
                    remove_of_not_map (fun entries same => unfit entries (same ▸ found)) _
                  have same := ih inner
                  rw [left] at same
                  change (inner.follow rest).mapError _ = ((inner.follow rest).mapError _).map _
                  rw [← outwards, ← same]

/-- A removal leaves at its path what was there, or nothing. -/
theorem follow_remove_self (v : Value) (path : List String) :
    (v.remove path).follow path = v.follow path ∨ (v.remove path).follow path = .error .absent := by
  induction path generalizing v with
  | nil => exact .inl (by cases v <;> rfl)
  | cons key rest ih =>
      cases v with
      | scalar s => exact .inl rfl
      | list items => exact .inl rfl
      | map fields =>
          cases rest with
          | nil =>
              right
              rw [remove_member, follow_map, Fields.get?_drop, if_pos rfl]
          | cons next rest =>
              rw [remove_map]
              split
              · next inner found =>
                  rw [follow_set_self, follow_map, found]
                  rcases ih (map inner) with same | absent
                  · exact .inl (by rw [same])
                  · exact .inr (by rw [absent]; rfl)
              · exact .inl rfl

/-! ## Room below a key -/

/-- There is room for values below a key: it leads to a map, or nothing stands there. -/
def HasRoom (v : Value) (key : String) : Prop :=
  v.follow [key] = .error .absent ∨ ∃ entries, v.follow [key] = .ok (.map entries)

theorem hasRoom_map_iff (fields : Fields) (key : String) :
    (map fields).HasRoom key ↔
      fields.get? key = none ∨ ∃ entries, fields.get? key = some (.map entries) := by
  unfold HasRoom
  rw [follow_map]
  cases found : fields.get? key with
  | none => simp
  | some v => simp [Except.mapError]

theorem HasRoom.exists_map {v : Value} {key : String} (room : v.HasRoom key) :
    ∃ fields, v = .map fields := by
  cases v with
  | map fields => exact ⟨fields, rfl⟩
  | scalar s => simp [HasRoom, follow] at room
  | list items => simp [HasRoom, follow] at room

theorem HasRoom.of_follow_eq {v w : Value} {key : String} (room : v.HasRoom key)
    (same : w.follow [key] = v.follow [key]) : w.HasRoom key := by
  unfold HasRoom
  rwa [same]

/-- Where there is room, a value can be written. -/
theorem HasRoom.exists_write {v : Value} {key : String} (room : v.HasRoom key) (name : String)
    (value : Value) : ∃ written, v.write [key, name] value = .ok written := by
  obtain ⟨fields, rfl⟩ := room.exists_map
  rcases (hasRoom_map_iff fields key).mp room with absent | ⟨entries, found⟩
  · exact ⟨map (Fields.set fields key (nest value [name])), by simp [write, absent]⟩
  · exact ⟨map (Fields.set fields key (map (Fields.set entries name value))), by simp [write, found]⟩

/-- A write below a key leaves a map there. -/
theorem exists_map_of_write {v value written : Value} {next : String} {rest : List String}
    (done : v.write (next :: rest) value = .ok written) : ∃ entries, written = .map entries := by
  cases v with
  | scalar s => simp [write] at done
  | list items => simp [write] at done
  | map fields =>
      obtain ⟨inner, rfl, -⟩ := write_map done
      exact ⟨_, rfl⟩

/-- Writes below the keys of a map keep the room that there is. -/
theorem HasRoom.of_write {v value written : Value} {key outer next : String} {rest : List String}
    (room : v.HasRoom key) (done : v.write (outer :: next :: rest) value = .ok written) :
    written.HasRoom key := by
  by_cases same : outer = key
  · subst same
    obtain ⟨fields, rfl⟩ := room.exists_map
    obtain ⟨inner, rfl, below⟩ := write_map done
    refine (hasRoom_map_iff _ _).mpr (.inr ?_)
    rw [Fields.get?_set, if_pos rfl]
    rcases below with ⟨-, rfl⟩ | ⟨v, -, below⟩ | ⟨impossible, -⟩
    · exact ⟨_, rfl⟩
    · obtain ⟨entries, rfl⟩ := exists_map_of_write below
      exact ⟨entries, rfl⟩
    · contradiction
  · exact room.of_follow_eq (follow_write_of_apart done (by simp [same]))

/-- Removals below the keys of a map keep the room that there is. -/
theorem HasRoom.of_remove {v : Value} {key : String} (room : v.HasRoom key) (outer next : String)
    (rest : List String) : (v.remove (outer :: next :: rest)).HasRoom key := by
  by_cases same : outer = key
  · subst same
    obtain ⟨fields, rfl⟩ := room.exists_map
    rw [remove_map]
    split
    · next inner found =>
        refine (hasRoom_map_iff _ _).mpr (.inr ?_)
        rw [Fields.get?_set, if_pos rfl]
        obtain ⟨entries, left⟩ := exists_map_of_remove inner next rest
        exact ⟨entries, congrArg some left⟩
    · exact room
  · exact room.of_follow_eq (follow_remove_of_apart v (by simp [same]))

end Value

end Reconciler
