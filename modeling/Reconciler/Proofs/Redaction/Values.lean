import Reconciler.Proofs.Value.Unchanged
import Reconciler.Telemetry.Basic

/-!
# What the redaction of a value shows

Under a key that names a credential nothing is shown of a value, whatever it is and however deep it
stands: two values that are alike elsewhere have one redaction, and are logged as one line.  Elsewhere a
value keeps its shape, and only its texts are rewritten.
-/

namespace Reconciler.Redaction

/-- What stands under the key is not shown. -/
def hides : Scalar → Bool
  | .text name => isCredentialKey name
  | _ => false

theorem redactEntries_cons (key : Scalar) (value : Value) (rest : Fields) :
    redactEntries ((key, value) :: rest) =
      (key, if hides key then .text mask else redactValue value) :: redactEntries rest := by
  cases key with
  | text name => rfl
  | _ => rfl

/-! ## Alike values -/

mutual

/-- The values are alike, but for what is hidden: scalars are related as `leaf` says, lists are alike item
by item, and maps have the same keys in the same order. -/
def Alike (leaf : Scalar → Scalar → Prop) : Value → Value → Prop
  | .scalar a, .scalar b => leaf a b
  | .list as, .list bs => AlikeItems leaf as bs
  | .map as, .map bs => AlikeEntries leaf as bs
  | _, _ => False

/-- The lists are equally long and alike item by item. -/
def AlikeItems (leaf : Scalar → Scalar → Prop) : List Value → List Value → Prop
  | [], [] => True
  | a :: as, b :: bs => Alike leaf a b ∧ AlikeItems leaf as bs
  | _, _ => False

/-- The entries have the same keys in the same order, and alike values where these are shown. -/
def AlikeEntries (leaf : Scalar → Scalar → Prop) : Fields → Fields → Prop
  | [], [] => True
  | (k, a) :: as, (l, b) :: bs =>
    k = l ∧ (hides k = true ∨ Alike leaf a b) ∧ AlikeEntries leaf as bs
  | _, _ => False

end

mutual

/-- A value is alike to itself. -/
theorem Alike.refl {leaf : Scalar → Scalar → Prop} (leaf_refl : ∀ s, leaf s s) :
    ∀ v, Alike leaf v v
  | .scalar s => by
      unfold Alike
      exact leaf_refl s
  | .list items => by
      unfold Alike
      exact AlikeItems.refl leaf_refl items
  | .map entries => by
      unfold Alike
      exact AlikeEntries.refl leaf_refl entries

theorem AlikeItems.refl {leaf : Scalar → Scalar → Prop} (leaf_refl : ∀ s, leaf s s) :
    ∀ items, AlikeItems leaf items items
  | [] => by simp [AlikeItems]
  | v :: rest => by
      unfold AlikeItems
      exact ⟨Alike.refl leaf_refl v, AlikeItems.refl leaf_refl rest⟩

theorem AlikeEntries.refl {leaf : Scalar → Scalar → Prop} (leaf_refl : ∀ s, leaf s s) :
    ∀ entries, AlikeEntries leaf entries entries
  | [] => by simp [AlikeEntries]
  | (key, v) :: rest => by
      unfold AlikeEntries
      exact ⟨rfl, .inr (Alike.refl leaf_refl v), AlikeEntries.refl leaf_refl rest⟩

end

/-! ## Redactions of alike values -/

mutual

/-- Values that differ in what is hidden alone have one redaction. -/
theorem redactValue_eq_of_alike : ∀ {v w : Value}, Alike Eq v w → redactValue v = redactValue w
  | .scalar a, .scalar b, alike => by
      unfold Alike at alike
      rw [alike]
  | .list as, .list bs, alike => by
      unfold Alike at alike
      rw [redactValue, redactValue, redactItems_eq_of_alike alike]
  | .map as, .map bs, alike => by
      unfold Alike at alike
      rw [redactValue, redactValue, redactEntries_eq_of_alike alike]
  | .scalar _, .list _, alike | .scalar _, .map _, alike | .list _, .scalar _, alike
  | .list _, .map _, alike | .map _, .scalar _, alike | .map _, .list _, alike => by
      simp [Alike] at alike

theorem redactItems_eq_of_alike :
    ∀ {as bs : List Value}, AlikeItems Eq as bs → redactItems as = redactItems bs
  | [], [], _ => rfl
  | a :: as, b :: bs, alike => by
      unfold AlikeItems at alike
      rw [redactItems, redactItems, redactValue_eq_of_alike alike.1, redactItems_eq_of_alike alike.2]
  | [], _ :: _, alike | _ :: _, [], alike => by simp [AlikeItems] at alike

theorem redactEntries_eq_of_alike :
    ∀ {as bs : Fields}, AlikeEntries Eq as bs → redactEntries as = redactEntries bs
  | [], [], _ => rfl
  | (k, a) :: as, (l, b) :: bs, alike => by
      unfold AlikeEntries at alike
      obtain ⟨rfl, shown, rest⟩ := alike
      rw [redactEntries_cons, redactEntries_cons, redactEntries_eq_of_alike rest]
      rcases shown with hidden | shown
      · rw [if_pos hidden, if_pos hidden]
      · rw [redactValue_eq_of_alike shown]
  | [], _ :: _, alike | _ :: _, [], alike => by simp [AlikeEntries] at alike

end

/-! ## Log lines -/

section Writing

variable {leaf : Scalar → Scalar → Prop} {as bs : Fields} {key : Scalar} {a b : Value}

theorem AlikeEntries.put (alike : AlikeEntries leaf as bs)
    (shown : hides key = true ∨ Alike leaf a b) :
    AlikeEntries leaf (Fields.put key a as) (Fields.put key b bs) := by
  induction as generalizing bs with
  | nil =>
      cases bs with
      | nil => simpa [Fields.put, AlikeEntries] using shown
      | cons => simp [AlikeEntries] at alike
  | cons entry as ih =>
      cases bs with
      | nil => simp [AlikeEntries] at alike
      | cons other bs =>
          unfold AlikeEntries at alike
          obtain ⟨same, first, rest⟩ := alike
          unfold Fields.put
          rw [← same]
          by_cases here : entry.1.sameKey key = true
          · rw [if_pos here, if_pos here]
            unfold AlikeEntries
            refine ⟨rfl, shown.imp_left fun hidden => ?_, rest⟩
            -- Only a text hides, and no other key is the same key.
            cases key with
            | text name => rw [(Scalar.sameKey_text_iff _ name).mp here]; exact hidden
            | _ => simp [hides] at hidden
          · rw [if_neg here, if_neg here]
            unfold AlikeEntries
            exact ⟨rfl, first, ih rest⟩

/-- Maps that are alike stay so when alike entries are written over them. -/
theorem AlikeEntries.merge {later later' : Fields} (alike : AlikeEntries leaf as bs)
    (later_alike : AlikeEntries leaf later later') :
    AlikeEntries leaf (Fields.merge as later) (Fields.merge bs later') := by
  induction later generalizing as bs later' with
  | nil =>
      cases later' with
      | nil => exact alike
      | cons => simp [AlikeEntries] at later_alike
  | cons entry later ih =>
      cases later' with
      | nil => simp [AlikeEntries] at later_alike
      | cons other later' =>
          unfold AlikeEntries at later_alike
          obtain ⟨same, shown, rest⟩ := later_alike
          have put := alike.put shown
          unfold Fields.merge
          rw [List.foldl_cons, List.foldl_cons, ← same]
          exact ih put rest

end Writing

/-- Records with alike further fields are logged as one line. -/
theorem line_eq_of_alike (record : LogRecord) (scope : Option Scope) {additional other : Fields}
    (alike : AlikeEntries Eq additional other) :
    record.line scope additional = record.line scope other := by
  have in_scope : AlikeEntries Eq (Scope.fields scope additional) (Scope.fields scope other) :=
    (AlikeEntries.refl (fun _ => rfl) _).merge alike
  have merged := (AlikeEntries.refl (fun _ => rfl) record.fields).merge in_scope
  have same := redactValue_eq_of_alike (v := .map _) (w := .map _) (by unfold Alike; exact merged)
  rw [LogRecord.line, LogRecord.line, same]

/-! ## Equal values -/

mutual

/-- Equality of values, but for what is hidden, where floating-point numbers are compared as `float`
says: lists agree in order, maps agree key by key in any order. -/
def equalShown (float : Float → Float → Bool) : Value → Value → Bool
  | .scalar a, .scalar b => Scalar.equalBy float a b
  | .list as, .list bs => equalShownItems float as bs
  | .map as, .map bs => as.length == bs.length && equalShownEntries float as bs
  | _, _ => false

/-- Lists agree in length and item by item. -/
def equalShownItems (float : Float → Float → Bool) : List Value → List Value → Bool
  | [], [] => true
  | a :: as, b :: bs => equalShown float a b && equalShownItems float as bs
  | _, _ => false

/-- Each entry has its key in the other map, with an equal value there where it is shown. -/
def equalShownEntries (float : Float → Float → Bool) : Fields → Fields → Bool
  | [], _ => true
  | (k, a) :: as, bs =>
    (match Fields.find? k bs with
      | some b => hides k || equalShown float a b
      | none => false) && equalShownEntries float as bs

end

theorem length_redactEntries (fields : Fields) : (redactEntries fields).length = fields.length := by
  induction fields with
  | nil => rfl
  | cons entry rest ih => rw [redactEntries_cons, List.length_cons, ih, List.length_cons]

/-- A key that is the same key hides the same. -/
theorem hides_eq_of_sameKey {key other : Scalar} (same : key.sameKey other = true) :
    hides key = hides other := by
  cases other with
  | text name => rw [(Scalar.sameKey_text_iff key name).mp same]
  | _ =>
      cases key with
      | text name => simp [Scalar.sameKey, Scalar.equalBy, Scalar.reading?] at same
      | _ => rfl

theorem find?_redactEntries (key : Scalar) (fields : Fields) :
    Fields.find? key (redactEntries fields) =
      (Fields.find? key fields).map fun value =>
        if hides key then .text mask else redactValue value := by
  induction fields with
  | nil => rfl
  | cons entry rest ih =>
      rw [redactEntries_cons, Fields.find?, Fields.find?]
      by_cases here : entry.1.sameKey key = true
      · rw [if_pos here, if_pos here, hides_eq_of_sameKey here]
        rfl
      · rw [if_neg here, if_neg here, ih]

theorem equalBy_redact_scalar {float : Float → Float → Bool} {a b : Scalar}
    (equal : a.equalBy float b = true) :
    Value.equalBy float (redactValue (.scalar a)) (redactValue (.scalar b)) = true := by
  cases b with
  | text s =>
      rw [(Scalar.equalBy_text_iff float a s).mp equal]
      simp [redactValue, Value.equalBy, Scalar.equalBy]
  | _ =>
      cases a with
      | text s => simp [Scalar.equalBy, Scalar.reading?] at equal
      | _ => simpa [redactValue, Value.equalBy] using equal

mutual

/-- Values that are equal in all that is shown have equal redactions. -/
theorem equalBy_redactValue {float : Float → Float → Bool} :
    ∀ {v w : Value}, equalShown float v w = true →
      Value.equalBy float (redactValue v) (redactValue w) = true
  | .scalar a, .scalar b, equal => by
      unfold equalShown at equal
      exact equalBy_redact_scalar equal
  | .list as, .list bs, equal => by
      unfold equalShown at equal
      rw [redactValue, redactValue, Value.equalBy]
      exact equalItems_redactItems equal
  | .map as, .map bs, equal => by
      unfold equalShown at equal
      rw [Bool.and_eq_true] at equal
      rw [redactValue, redactValue, Value.equalBy, length_redactEntries, length_redactEntries, equal.1,
        Bool.true_and]
      exact equalEntries_redactEntries equal.2
  | .scalar _, .list _, equal | .scalar _, .map _, equal | .list _, .scalar _, equal
  | .list _, .map _, equal | .map _, .scalar _, equal | .map _, .list _, equal => by
      simp [equalShown] at equal

theorem equalItems_redactItems {float : Float → Float → Bool} :
    ∀ {as bs : List Value}, equalShownItems float as bs = true →
      Value.equalItems float (redactItems as) (redactItems bs) = true
  | [], [], _ => rfl
  | a :: as, b :: bs, equal => by
      unfold equalShownItems at equal
      rw [Bool.and_eq_true] at equal
      rw [redactItems, redactItems, Value.equalItems, equalBy_redactValue equal.1,
        equalItems_redactItems equal.2]
      rfl
  | [], _ :: _, equal | _ :: _, [], equal => by simp [equalShownItems] at equal

theorem equalEntries_redactEntries {float : Float → Float → Bool} :
    ∀ {as bs : Fields}, equalShownEntries float as bs = true →
      Value.equalEntries float (redactEntries as) (redactEntries bs) = true
  | [], _, _ => by simp [redactEntries, Value.equalEntries]
  | (k, a) :: as, bs, equal => by
      unfold equalShownEntries at equal
      rw [Bool.and_eq_true] at equal
      obtain ⟨first, rest⟩ := equal
      rw [redactEntries_cons, Value.equalEntries, find?_redactEntries,
        equalEntries_redactEntries rest, Bool.and_true]
      cases found : Fields.find? k bs with
      | none => simp [found] at first
      | some b =>
          simp only [found, Bool.or_eq_true] at first
          simp only [Option.map_some]
          by_cases hidden : hides k = true
          · rw [if_pos hidden, if_pos hidden]
            simp [Value.equalBy, Scalar.equalBy]
          · rw [if_neg hidden, if_neg hidden]
            exact equalBy_redactValue (first.resolve_left hidden)

end

/-! ## Shapes -/

/-- A scalar is shown as it is, or it is a text and shown as the redaction of the text. -/
def ShownAs (a b : Scalar) : Prop :=
  match a with
  | .text s => b = .text (redactText s)
  | s => b = s

mutual

/-- A value is alike to its redaction. -/
theorem alike_redactValue : ∀ v, Alike ShownAs v (redactValue v)
  | .scalar s => by
      cases s <;> simp [redactValue, Alike, ShownAs]
  | .list items => by
      rw [redactValue, Alike]
      exact alikeItems_redactItems items
  | .map entries => by
      rw [redactValue, Alike]
      exact alikeEntries_redactEntries entries

theorem alikeItems_redactItems : ∀ items, AlikeItems ShownAs items (redactItems items)
  | [] => by simp [redactItems, AlikeItems]
  | v :: rest => by
      rw [redactItems, AlikeItems]
      exact ⟨alike_redactValue v, alikeItems_redactItems rest⟩

theorem alikeEntries_redactEntries :
    ∀ entries, AlikeEntries ShownAs entries (redactEntries entries)
  | [] => by simp [redactEntries, AlikeEntries]
  | (key, v) :: rest => by
      rw [redactEntries_cons, AlikeEntries]
      refine ⟨rfl, ?_, alikeEntries_redactEntries rest⟩
      cases hidden : hides key with
      | true => exact .inl rfl
      | false => exact .inr (by simpa using alike_redactValue v)

end

/-- What stands under the name of a credential is not shown, in a value or in a log line: two values that
are alike elsewhere have one redaction, two that are equal elsewhere have equal ones, and records whose
further fields are alike elsewhere are logged as one line.  The redaction keeps the keys and the lengths,
and what is shown besides texts. -/
theorem redaction_hides :
    (∀ v w, Alike Eq v w → redactValue v = redactValue w) ∧
    (∀ float v w, equalShown float v w = true →
      Value.equalBy float (redactValue v) (redactValue w) = true) ∧
    (∀ (telemetry : Telemetry) level record additional other, AlikeEntries Eq additional other →
      telemetry.logRecord level record additional = telemetry.logRecord level record other) ∧
    ∀ v, Alike ShownAs v (redactValue v) := by
  refine ⟨fun v w => redactValue_eq_of_alike, fun float v w => equalBy_redactValue,
    fun telemetry level record additional other alike => ?_, alike_redactValue⟩
  unfold Telemetry.logRecord
  rw [line_eq_of_alike record telemetry.scope alike]

/-- The parts of a request, of which one has a header with a key. -/
def partsWithKey (key : Value) : Fields :=
  [(.text "user", .text "first"),
    (.text "parts", .list [.map [(.text "Api-Key", key)], .int 1, .null])]

/-- A key deep in the parts of a request may be anything, and is not shown. -/
theorem redaction_hides_key :
    let numbered := partsWithKey (.int 1)
    let nested := partsWithKey (.list [.text "deep"])
    AlikeEntries Eq numbered nested ∧ equalShown Decimal.equal (.map numbered) (.map nested) = true ∧
      redactValue (.map numbered) = redactValue (.map nested) ∧
      Value.equalBy Decimal.equal (redactValue (.map numbered)) (redactValue (.map nested)) = true ∧
      ∀ (telemetry : Telemetry) (record : LogRecord),
        telemetry.logRecord .info record numbered = telemetry.logRecord .info record nested := by
  have hidden : hides (.text "Api-Key") = true := by decide
  have alike : AlikeEntries Eq (partsWithKey (.int 1)) (partsWithKey (.list [.text "deep"])) := by
    simp [partsWithKey, AlikeEntries, Alike, AlikeItems, hidden]
  have equal : equalShown Decimal.equal (.map (partsWithKey (.int 1)))
      (.map (partsWithKey (.list [.text "deep"]))) = true := by
    simp [partsWithKey, equalShown, equalShownEntries, equalShownItems, Fields.find?,
      Scalar.sameKey, Scalar.equalBy, hidden]
  obtain ⟨same, same_equal, same_line, -⟩ := redaction_hides
  exact ⟨alike, equal, same _ _ (by unfold Alike; exact alike), same_equal _ _ _ equal,
    fun telemetry record => same_line telemetry _ record _ _ alike⟩

end Reconciler.Redaction
