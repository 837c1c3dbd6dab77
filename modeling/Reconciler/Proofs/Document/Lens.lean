import Reconciler.Proofs.Document.Edits
import Reconciler.Proofs.Value.Unchanged

/-!
# Laws of fields

A field that was written is read back, and a field that was removed is gone, while every path apart from
it reads as before.  Maps that are absent on the way to a field are created one after the other.  A write
that fails leaves none of them behind: it fails where a value stands that is no map, and below a map that
was created no such value stands.
-/

namespace Reconciler

namespace Value

variable {v value got : Value} {path : List String}

/-! ## Writing in place -/

/-- Work on the value under a key of a map, on an empty map when the key is absent.  What the work leaves
behind stands under the key afterwards, also when the work fails. -/
def inside (key : String) (act : EStateM PathFault Value Unit) : EStateM PathFault Value Unit
  | .map fields =>
    match act ((Fields.get? fields key).getD (.map [])) with
    | .ok () inner => .ok () (.map (Fields.set fields key inner))
    | .error fault inner => .error fault.outer (.map (Fields.set fields key inner))
  | v => .error (.notMap 0 v) v

/-- Writes a value at a path, step by step in the tree itself. -/
def writeInPlace (value : Value) : List String → EStateM PathFault Value Unit
  | [] => set value
  | key :: rest => inside key (writeInPlace value rest)

theorem write_of_not_map (other : v.fields? = none) (key : String) (rest : List String) (value : Value) :
    v.write (key :: rest) value = .error (.notMap 0 v) := by
  cases v with
  | map fields => contradiction
  | scalar s => cases rest <;> rfl
  | list items => cases rest <;> rfl

theorem write_empty (key : String) (rest : List String) (value : Value) :
    (map []).write (key :: rest) value = .ok (nest value (key :: rest)) := by
  cases rest <;> rfl

/-- What a write below a key of a map comes to. -/
theorem write_below (fields : Fields) (key next : String) (rest : List String) (value : Value) :
    (map fields).write (key :: next :: rest) value =
      match fields.get? key with
      | none => .ok (map (fields.set key (nest value (next :: rest))))
      | some v =>
        match v.write (next :: rest) value with
        | .ok inner => .ok (map (fields.set key inner))
        | .error fault => .error fault.outer := rfl

/-- A write in place leaves the written tree behind, or fails and leaves the tree as it was. -/
theorem writeInPlace_eq (value v : Value) (path : List String) :
    writeInPlace value path v =
      match v.write path value with
      | .ok written => .ok () written
      | .error fault => .error fault v := by
  induction path generalizing v with
  | nil => cases v <;> rfl
  | cons key rest ih =>
      cases v with
      | scalar s => rw [write_of_not_map rfl]; rfl
      | list items => rw [write_of_not_map rfl]; rfl
      | map fields =>
          cases rest with
          | nil => rfl
          | cons next rest =>
              rw [write_below, writeInPlace, inside, ih]
              cases found : Fields.get? fields key with
              -- Below a map that was just created, nothing is in the way.
              | none => rw [Option.getD_none, write_empty]
              | some inner =>
                  dsimp only [Option.getD_some]
                  cases inner.write (next :: rest) value with
                  | ok written => rfl
                  | error fault =>
                      dsimp only
                      rw [Fields.set_of_get? found]

/-! ## Where writes fail -/

theorem follow_cons_eq_ok_iff {key : String} {rest : List String} :
    v.follow (key :: rest) = .ok got ↔
      ∃ fields inner, v = .map fields ∧ Fields.get? fields key = some inner ∧
        inner.follow rest = .ok got := by
  cases v with
  | scalar s => simp [follow]
  | list items => simp [follow]
  | map fields =>
      rw [follow_map]
      cases found : Fields.get? fields key with
      | none => simp [found]
      | some inner => cases below : inner.follow rest <;> simp [found, below, Except.mapError]

/-- A path is blocked at its beginning `before`, which is not the whole path: a value stands there that is
no map. -/
structure Blocked (v : Value) (path before : List String) (got : Value) : Prop where
  /-- The path begins so. -/
  begins : before <+: path
  /-- The path goes on. -/
  proper : before ≠ path
  /-- The value stands there. -/
  stands : v.follow before = .ok got
  /-- It is no map. -/
  other : got.fields? = none

theorem not_blocked_nil (before : List String) : ¬v.Blocked [] before got :=
  fun blocked => blocked.proper (List.prefix_nil.mp blocked.begins)

theorem blocked_cons_iff {fields : Fields} {key : String} {rest before : List String} :
    (map fields).Blocked (key :: rest) before got ↔
      ∃ inner below, fields.get? key = some inner ∧ before = key :: below ∧
        inner.Blocked rest below got := by
  constructor
  · rintro ⟨begins, proper, stands, other⟩
    cases before with
    | nil =>
        obtain rfl : map fields = got := by simpa using stands
        contradiction
    | cons step below =>
        obtain ⟨rfl, goes_on⟩ := List.cons_prefix_cons.mp begins
        obtain ⟨entries, inner, same, found, stands⟩ := follow_cons_eq_ok_iff.mp stands
        obtain rfl := Value.map.inj same
        exact ⟨inner, below, found, rfl, goes_on, fun same => proper (by rw [same]), stands, other⟩
  · rintro ⟨inner, below, found, rfl, begins, proper, stands, other⟩
    exact ⟨List.cons_prefix_cons.mpr ⟨rfl, begins⟩, fun same => proper (List.cons.inj same).2,
      follow_cons_eq_ok_iff.mpr ⟨fields, inner, rfl, found, stands⟩, other⟩

/-- A write in a map fails exactly when it fails below the key. -/
theorem write_map_eq_error_iff {fields : Fields} {key : String} {rest : List String}
    {fault : PathFault} :
    (map fields).write (key :: rest) value = .error fault ↔
      ∃ inner below, fields.get? key = some inner ∧ inner.write rest value = .error below ∧
        fault = below.outer := by
  cases rest with
  | nil => simp [write]
  | cons next rest =>
      rw [write_below]
      cases found : fields.get? key with
      | none => simp
      | some inner =>
          dsimp only
          cases below : inner.write (next :: rest) value with
          | ok written => simp [below]
          | error fault => simp [below, eq_comm]

/-- A write fails exactly where its path is blocked. -/
theorem write_eq_error_iff {fault : PathFault} :
    v.write path value = .error fault ↔
      ∃ before got, v.Blocked path before got ∧ fault = .notMap before.length got := by
  induction path generalizing v fault with
  | nil => simp [write, not_blocked_nil]
  | cons key rest ih =>
      cases shape : v.fields? with
      | none =>
          rw [write_of_not_map shape]
          constructor
          · rintro ⟨⟩
            exact ⟨[], v, ⟨List.nil_prefix, by simp, by simp, shape⟩, rfl⟩
          · rintro ⟨before, got, blocked, rfl⟩
            cases before with
            | nil =>
                obtain rfl : v = got := by simpa using blocked.stands
                rfl
            | cons step below =>
                obtain ⟨fields, -, rfl, -⟩ := follow_cons_eq_ok_iff.mp blocked.stands
                contradiction
      | some fields =>
          obtain rfl := fields?_eq_some_iff.mp shape
          simp only [write_map_eq_error_iff, blocked_cons_iff, ih]
          constructor
          · rintro ⟨inner, -, found, ⟨before, got, blocked, rfl⟩, rfl⟩
            exact ⟨key :: before, got, ⟨inner, before, found, rfl, blocked⟩, rfl⟩
          · rintro ⟨-, got, ⟨inner, before, found, rfl, blocked⟩, rfl⟩
            exact ⟨inner, _, found, ⟨before, got, blocked, rfl⟩, rfl⟩

/-! ## What a removal leaves -/

/-- What was removed is not read any more. -/
theorem exists_follow_remove_error (v : Value) {path : List String} (stated : path ≠ []) :
    ∃ fault, (v.remove path).follow path = .error fault := by
  induction path generalizing v with
  | nil => contradiction
  | cons key rest ih =>
      cases v with
      | scalar s => exact ⟨_, rfl⟩
      | list items => exact ⟨_, rfl⟩
      | map fields =>
          cases rest with
          | nil =>
              rw [remove_member, follow_map, Fields.get?_drop, if_pos rfl]
              exact ⟨_, rfl⟩
          | cons next rest =>
              rw [remove_map]
              split
              next inner found =>
                obtain ⟨fault, gone⟩ := ih (map inner) (by simp)
                rw [follow_set_self, gone]
                exact ⟨_, rfl⟩
              -- No map stands below the key, so that nothing is read there.
              next unfit =>
                rw [follow_map]
                cases found : Fields.get? fields key with
                | none => exact ⟨_, rfl⟩
                | some inner =>
                    cases inner with
                    | map entries => exact absurd found (unfit entries)
                    | scalar s => exact ⟨_, rfl⟩
                    | list items => exact ⟨_, rfl⟩

/-- A second removal changes nothing. -/
theorem remove_remove (v : Value) (path : List String) :
    (v.remove path).remove path = v.remove path := by
  induction path generalizing v with
  | nil => cases v <;> rfl
  | cons key rest ih =>
      cases v with
      | scalar s => cases rest <;> rfl
      | list items => cases rest <;> rfl
      | map fields =>
          cases rest with
          | nil => simp [remove_member, Fields.drop, List.filter_filter]
          | cons next rest =>
              rw [remove_map]
              split
              next inner found =>
                obtain ⟨entries, left⟩ := exists_map_of_remove inner next rest
                rw [left, remove_map, Fields.get?_set, if_pos rfl]
                dsimp only
                rw [← left, ih, Fields.set_of_get? (by rw [Fields.get?_set, if_pos rfl])]
              next unfit =>
                rw [remove_map]
                split
                · next inner found => exact absurd found (unfit inner)
                · rfl

end Value

namespace Document

variable {doc : Document} {path : List String}

/-! ## Fields of documents -/

/-- The failure of a write whose path cannot be followed. -/
def refusal (path : List String) : PathFault → Failure
  | .absent => .fieldNotFound path
  | .notMap 0 got =>
    .shape (if path.length == 1 then .notIndexed got.kind else .noMember got.kind "get")
  | .notMap depth got => .fieldType (path.take depth) "map" got

/-- Writes a field step by step: maps that are absent on the way are created in the tree itself. -/
def setFieldInPlace (path : List String) (value : Value) : Edit Unit := fun doc =>
  match Value.writeInPlace value path doc.object with
  | .ok () object => .ok () { doc with object }
  | .error fault object => .error (refusal path fault) { doc with object }

theorem withField_eq (doc : Document) (stated : path ≠ []) (value : Value) :
    doc.withField path value =
      match doc.object.write path value with
      | .ok object => .ok { doc with object }
      | .error fault => .error (refusal path fault) := by
  rw [withField, if_neg (by simpa using stated)]
  cases doc.object.write path value with
  | ok object => rfl
  | error fault => rcases fault with _ | ⟨_ | _, _⟩ <;> rfl

/-- Writing a field step by step comes to the same as writing it at once. -/
theorem setField_eq_inPlace (stated : path ≠ []) (value : Value) :
    setField path value = setFieldInPlace path value := by
  funext doc
  change (ofExcept (doc.withField path value) >>= set : Edit Unit) doc = _
  rw [withField_eq doc stated, setFieldInPlace, Value.writeInPlace_eq]
  cases doc.object.write path value <;> rfl

theorem answer_setField_eq (doc : Document) (stated : path ≠ []) (value : Value) :
    answer (setField path value) doc =
      match doc.object.write path value with
      | .ok _ => .ok ()
      | .error fault => .error (refusal path fault) := by
  change answer (ofExcept (doc.withField path value) >>= set) doc = _
  rw [answer_bind, answer_ofExcept, withField_eq doc stated]
  cases doc.object.write path value <;> rfl

theorem field_congr {other : Document} (same : doc.object.follow path = other.object.follow path) :
    doc.field path = other.field path := by
  unfold field
  rw [same]

theorem field_eq_ok_iff {value : Value} :
    doc.field path = .ok value ↔ doc.object.follow path = .ok value := by
  unfold field
  cases doc.object.follow path with
  | ok found => simp
  | error fault => cases fault <;> simp

/-- Where a path is blocked below the root, its beginning is reported. -/
theorem refusal_of_blocked {v got : Value} {before : List String} (blocked : v.Blocked path before got)
    (below : before ≠ []) :
    refusal path (.notMap before.length got) = .fieldType before "map" got := by
  obtain ⟨depth, deep⟩ : ∃ depth, before.length = depth + 1 :=
    Nat.exists_eq_succ_of_ne_zero fun none => below (List.length_eq_zero_iff.mp none)
  have begins : path.take before.length = before :=
    (List.prefix_iff_eq_take.mp blocked.begins).symm
  rw [deep] at begins ⊢
  change Failure.fieldType (path.take (depth + 1)) "map" got = _
  rw [begins]

theorem answer_setField_error_iff (doc : Document) (stated : path ≠ []) (value : Value)
    {failure : Failure} :
    answer (setField path value) doc = .error failure ↔
      ∃ before got, doc.object.Blocked path before got ∧
        failure = refusal path (.notMap before.length got) := by
  have fails : answer (setField path value) doc = .error failure ↔
      ∃ fault, doc.object.write path value = .error fault ∧ failure = refusal path fault := by
    rw [answer_setField_eq doc stated]
    cases doc.object.write path value with
    | ok object => simp
    | error fault => simp [eq_comm]
  simp only [fails, Value.write_eq_error_iff]
  constructor
  · rintro ⟨-, ⟨before, got, blocked, rfl⟩, rfl⟩
    exact ⟨before, got, blocked, rfl⟩
  · rintro ⟨before, got, blocked, rfl⟩
    exact ⟨_, ⟨before, got, blocked, rfl⟩, rfl⟩

/-- A field is refused as being of another kind exactly when a value stands on the way to it, below the
root, that is no map. -/
theorem answer_setField_fieldType_iff (doc : Document) (stated : path ≠ []) (value : Value)
    {before : List String} {expected : String} {got : Value} :
    answer (setField path value) doc = .error (.fieldType before expected got) ↔
      expected = "map" ∧ before ≠ [] ∧ doc.object.Blocked path before got := by
  rw [answer_setField_error_iff doc stated]
  constructor
  · rintro ⟨place, found, blocked, refused⟩
    by_cases below : place = []
    · subst below
      contradiction
    · rw [refusal_of_blocked blocked below] at refused
      cases refused
      exact ⟨rfl, below, blocked⟩
  · rintro ⟨rfl, below, blocked⟩
    exact ⟨before, got, blocked, (refusal_of_blocked blocked below).symm⟩

/-- In a tree that is a map, a field is refused in no other way. -/
theorem exists_fieldType_of_refused {fields : Fields} (tree : doc.object = .map fields)
    (stated : path ≠ []) {value : Value} {failure : Failure}
    (refused : answer (setField path value) doc = .error failure) :
    ∃ before got, failure = .fieldType before "map" got := by
  obtain ⟨before, got, blocked, rfl⟩ := (answer_setField_error_iff doc stated value).mp refused
  have below : before ≠ [] := by
    rintro rfl
    obtain rfl : doc.object = got := by simpa using blocked.stands
    have other := blocked.other
    rw [tree] at other
    contradiction
  exact ⟨before, got, refusal_of_blocked blocked below⟩

/-- A write that is refused leaves the document as it was. -/
theorem final_setField_of_refused (stated : path ≠ []) {value : Value} {failure : Failure}
    (refused : answer (setField path value) doc = .error failure) :
    final (setField path value) doc = doc := by
  rw [answer_setField_eq doc stated] at refused
  rw [final_setField stated, Value.written]
  cases written : doc.object.write path value with
  | ok object => simp [written] at refused
  | error fault => rfl

theorem field_setField_of_apart (stated : path ≠ []) {other : List String} (apart : Apart path other)
    (value : Value) : (final (setField path value) doc).field other = doc.field other := by
  refine field_congr ?_
  have edited : Value.Edited [path] doc.object (doc.object.written path value) :=
    .written (by simp) value doc.object
  rw [final_setField stated]
  exact edited.follow_eq (by simpa using apart)

theorem removeField_eq (stated : path ≠ []) :
    removeField path = modify (·.withoutField path) := by
  funext doc
  have goes_on : path.isEmpty = false := by simpa using stated
  change (if (path.isEmpty && _) = true then _ else _ : Edit Unit) doc = _
  rw [goes_on]
  rfl

/-- A field that was written is read back, and a field that was removed is gone, for good; every path apart
from it reads as before, in the way in which it fails too.  A write that fails leaves the tree as it was,
although maps are created on the way; it fails exactly when a beginning of the path, and not the whole of
it, leads to a value that is no map.  A removal does not fail. -/
theorem field_laws (doc : Document) {path : List String} (stated : path ≠ []) (value : Value) :
    let write := setField path value
    let removal := removeField path
    (answer write doc = .ok () →
        (final write doc).field path = .ok value ∧
          ∀ other, Apart path other → (final write doc).field other = doc.field other) ∧
      write = setFieldInPlace path value ∧
      (∀ failure, answer write doc = .error failure → final write doc = doc) ∧
      (∀ before expected got, answer write doc = .error (.fieldType before expected got) ↔
        expected = "map" ∧ before ≠ [] ∧ doc.object.Blocked path before got) ∧
      (∀ fields, doc.object = .map fields → ∀ failure, answer write doc = .error failure →
        ∃ before got, failure = .fieldType before "map" got) ∧
      answer removal doc = .ok () ∧ (final removal doc).hasField path = false ∧
      (∀ other, Apart path other → (final removal doc).field other = doc.field other) ∧
      final removal (final removal doc) = final removal doc := by
  dsimp only
  refine ⟨fun wrote => ⟨field_eq_ok_iff.mpr (follow_setField stated wrote),
    fun other apart => field_setField_of_apart stated apart value⟩, setField_eq_inPlace stated value,
    fun failure => final_setField_of_refused stated,
    fun before expected got => answer_setField_fieldType_iff doc stated value,
    fun fields tree failure => exists_fieldType_of_refused tree stated, ?_⟩
  rw [removeField_eq stated]
  simp only [answer_modify, final_modify]
  refine ⟨trivial, ?_, fun other apart => field_congr ?_, ?_⟩
  · obtain ⟨fault, gone⟩ := doc.object.exists_follow_remove_error stated
    unfold hasField field withoutField
    rw [gone]
    cases fault <;> rfl
  · exact Value.follow_remove_of_apart doc.object apart
  · unfold withoutField
    dsimp only
    rw [Value.remove_remove]

/-- A document whose size is a number. -/
def sized : Document :=
  .ofObject (.ofFields [("spec", .ofFields [("size", .int 3)])])

/-- Nothing can be written below the number; below a key that is absent a map is created, and the number is
still there. -/
theorem field_laws_sized :
    answer (setField ["spec", "size", "most"] (.int 9)) sized =
        .error (.fieldType ["spec", "size"] "map" (.int 3)) ∧
      final (setField ["spec", "size", "most"] (.int 9)) sized = sized ∧
      (final (setField ["spec", "limits", "most"] (.int 9)) sized).field ["spec", "limits", "most"] =
        .ok (.int 9) ∧
      (final (setField ["spec", "limits", "most"] (.int 9)) sized).field ["spec", "size"] =
        .ok (.int 3) ∧
      (final (removeField ["spec", "size"]) sized).hasField ["spec", "size"] = false := by
  obtain ⟨-, -, kept, refused, -⟩ :=
    field_laws sized (List.cons_ne_nil "spec" ["size", "most"]) (.int 9)
  obtain ⟨wrote, -⟩ := field_laws sized (List.cons_ne_nil "spec" ["limits", "most"]) (.int 9)
  obtain ⟨-, -, -, -, -, -, gone, -⟩ := field_laws sized (List.cons_ne_nil "spec" ["size"]) (.int 9)
  have blocked : sized.object.Blocked ["spec", "size", "most"] ["spec", "size"] (.int 3) :=
    ⟨by decide, by decide, rfl, rfl⟩
  have fails := (refused ["spec", "size"] "map" (.int 3)).mpr ⟨rfl, by decide, blocked⟩
  obtain ⟨there, elsewhere⟩ := wrote rfl
  exact ⟨fails, kept _ fails, there, elsewhere ["spec", "size"] (by decide), gone⟩

end Document

end Reconciler
