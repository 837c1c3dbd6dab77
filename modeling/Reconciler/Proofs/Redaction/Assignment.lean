import Reconciler.Proofs.Redaction.Rules

/-!
# Values assigned to credentials

Where a text assigns a value to the name of a credential, the redaction of the text does not depend on
the value, whatever the text holds in front of the name.  Two texts that differ in the value alone are
swept alike: each of the first three sweeps covers the value in both or leaves the assignment as it stands
in both, and the last one masks it.
-/

namespace Reconciler.Redaction

variable {v w rest before run : List Char} {separator : Char} {rule : Rule}

/-! ## One sweep -/

theorem IsValue.held (value : IsValue v) (separates : isSeparator separator = true)
    (held : ∀ c ∈ run, isAssignmentChar c = true) :
    ∀ c ∈ run ++ separator :: v, isAssignmentChar c = true := by
  intro c mem
  rw [List.mem_append, List.mem_cons] at mem
  obtain mem | rfl | mem := mem
  · exact held c mem
  · have sign : c = ':' ∨ c = '=' := by simpa [isSeparator] using separates
    obtain rfl | rfl := sign <;> decide
  · exact List.contains_iff_mem.mpr (List.mem_cons_of_mem _ (List.mem_cons_of_mem _ (value.2 c mem)))

/-- What a rule does at the start of two texts that assign two values: it matches neither, it replaces
the same in front of the name, or it covers the value in both. -/
theorem Covers.outcomes (covers : Covers rule) (separates : isSeparator separator = true)
    (first : IsValue v) (second : IsValue w) (ends : EndsValue rest) (before : List Char)
    (held : ∀ c ∈ run, isAssignmentChar c = true) :
    (rule (before ++ (run ++ separator :: (v ++ rest))) = none ∧
        rule (before ++ (run ++ separator :: (w ++ rest))) = none) ∨
      (∃ replacement n, 0 < n ∧ n ≤ before.length ∧
        rule (before ++ (run ++ separator :: (v ++ rest))) = some (replacement, n) ∧
        rule (before ++ (run ++ separator :: (w ++ rest))) = some (replacement, n)) ∨
      sweep rule 0 (before ++ (run ++ separator :: (v ++ rest))) =
        sweep rule 0 (before ++ (run ++ separator :: (w ++ rest))) := by
  have front (z : List Char) : before ++ (run ++ separator :: (z ++ rest)) =
      before ++ run ++ [separator] ++ (z ++ rest) := by
    simp only [List.append_assoc, List.singleton_append]
  rw [front v, front w]
  cases covers.agrees separates first second ends (before ++ run) with
  | missed none_first none_second => exact .inl ⟨none_first, none_second⟩
  | within replacement n bounded some_first some_second =>
      obtain ⟨taken, left, split, rfl, outside⟩ := covers.runs _ _ _ some_first
      have whole : before ++ ((run ++ separator :: v) ++ rest) = taken ++ left := by
        rw [← split]
        simp
      refine .inr (.inl ⟨replacement, taken.length, List.length_pos_iff.mpr outside.1, ?_, some_first,
        some_second⟩)
      refine (outside.spares_run (first.held separates held) whole).resolve_right fun beyond => ?_
      have value_pos := List.length_pos_iff.mpr first.1
      simp only [List.length_append, List.length_cons, List.length_nil] at beyond bounded
      omega
  | beyond replacement x y left split_first split_second some_first some_second =>
      refine .inr (.inr ?_)
      have swept {z own : List Char} (split : z ++ rest = own ++ left)
          (found : rule (before ++ run ++ [separator] ++ (z ++ rest)) =
            some (replacement, (before ++ run ++ [separator]).length + own.length)) :
          sweep rule 0 (before ++ run ++ [separator] ++ (z ++ rest)) =
            replacement ++ sweep rule 0 left := by
        have positive : 0 < (before ++ run ++ [separator]).length + own.length := by
          rw [List.length_append, List.length_singleton]
          omega
        rw [sweep_of_found (by simp) positive found, split, ← List.append_assoc, ← List.length_append,
          List.drop_left]
      rw [swept split_first some_first, swept split_second some_second]

theorem Covers.outcomes_at_name (covers : Covers rule) (separates : isSeparator separator = true)
    (first : IsValue v) (second : IsValue w) (ends : EndsValue rest)
    (held : ∀ c ∈ run, isAssignmentChar c = true) :
    (rule (run ++ separator :: (v ++ rest)) = none ∧ rule (run ++ separator :: (w ++ rest)) = none) ∨
      sweep rule 0 (run ++ separator :: (v ++ rest)) =
        sweep rule 0 (run ++ separator :: (w ++ rest)) := by
  obtain missed | ⟨_, n, positive, bounded, -⟩ | same :=
    covers.outcomes separates first second ends [] held
  · exact .inl missed
  · exact absurd bounded (Nat.not_le.mpr positive)
  · exact .inr same

/-- A sweep keeps a value at the start, where its rule passes values. -/
theorem Passes.sweep_value (passes : Passes rule) (held : ∀ c ∈ v, c ∈ valueChars)
    (ends : EndsValue rest) : sweep rule 0 (v ++ rest) = v ++ sweep rule 0 rest := by
  induction v with
  | nil => rfl
  | cons c v ih =>
      rw [List.forall_mem_cons] at held
      have missed : rule (c :: (v ++ rest)) = none :=
        passes (u := c :: v) (List.forall_mem_cons.mpr held) ends
      rw [List.cons_append, sweep_cons_of_missed missed, ih held.2, List.cons_append]

theorem Passes.endsValue (passes : Passes rule) (ends : EndsValue rest) :
    EndsValue (sweep rule 0 rest) := by
  cases rest with
  | nil => exact ends
  | cons c rest =>
      have missed : rule (c :: rest) = none := passes (u := []) (by simp) ends
      rw [sweep_cons_of_missed missed]
      simpa [EndsValue] using ends

/-- A sweep of two values behind a name that stands at the start covers both, or keeps both. -/
theorem Covers.sweep_name (covers : Covers rule) (passes : Passes rule)
    (separates : isSeparator separator = true) (first : IsValue v) (second : IsValue w)
    (ends : EndsValue rest) (held : ∀ c ∈ run, isAssignmentChar c = true) :
    sweep rule 0 (run ++ separator :: (v ++ rest)) = sweep rule 0 (run ++ separator :: (w ++ rest)) ∨
      (sweep rule 0 (run ++ separator :: (v ++ rest)) =
          run ++ separator :: (v ++ sweep rule 0 rest) ∧
        sweep rule 0 (run ++ separator :: (w ++ rest)) =
          run ++ separator :: (w ++ sweep rule 0 rest)) := by
  induction run with
  | nil =>
      obtain ⟨none_first, none_second⟩ | same :=
        covers.outcomes_at_name separates first second ends held
      · rw [List.nil_append] at none_first none_second
        rw [List.nil_append, List.nil_append, List.nil_append, List.nil_append,
          sweep_cons_of_missed none_first, sweep_cons_of_missed none_second,
          passes.sweep_value first.2 ends, passes.sweep_value second.2 ends]
        exact .inr ⟨rfl, rfl⟩
      · exact .inl same
  | cons c run ih =>
      obtain ⟨none_first, none_second⟩ | same :=
        covers.outcomes_at_name separates first second ends held
      · rw [List.forall_mem_cons] at held
        rw [List.cons_append] at none_first none_second
        rw [List.cons_append, List.cons_append, List.cons_append, List.cons_append,
          sweep_cons_of_missed none_first, sweep_cons_of_missed none_second]
        obtain same | ⟨kept_first, kept_second⟩ := ih held.2
        · exact .inl (congrArg (c :: ·) same)
        · exact .inr ⟨congrArg (c :: ·) kept_first, congrArg (c :: ·) kept_second⟩
      · exact .inl same

/-- What holds of the sweeps of two values behind a name at the start, and is not lost when both follow
one text, holds of their sweeps behind any text. -/
theorem Covers.sweep_behind {name : List Char} {related : List Char → List Char → Prop}
    (covers : Covers rule) (separates : isSeparator separator = true) (first : IsValue v)
    (second : IsValue w) (ends : EndsValue rest) (held : ∀ c ∈ name, isAssignmentChar c = true)
    (equal : ∀ a, related a a)
    (prepend : ∀ front a b, related a b → related (front ++ a) (front ++ b))
    (start : related (sweep rule 0 (name ++ separator :: (v ++ rest)))
      (sweep rule 0 (name ++ separator :: (w ++ rest)))) (before : List Char) :
    related (sweep rule 0 (before ++ (name ++ separator :: (v ++ rest))))
      (sweep rule 0 (before ++ (name ++ separator :: (w ++ rest)))) := by
  -- A match shortens what stands in front of the name by more than one character at times.
  induction length : before.length using Nat.strong_induction_on generalizing before with
  | _ _ ih =>
      cases before with
      | nil => exact start
      | cons c before =>
          obtain ⟨none_first, none_second⟩ | ⟨replacement, n, positive, bounded, some_first, some_second⟩
            | same := covers.outcomes separates first second ends (c :: before) held
          · rw [List.cons_append] at none_first none_second
            rw [List.cons_append, List.cons_append, sweep_cons_of_missed none_first,
              sweep_cons_of_missed none_second]
            have shorter : before.length < (c :: before).length := Nat.lt_succ_self _
            exact prepend [c] _ _ (ih _ (length ▸ shorter) before rfl)
          · rw [sweep_of_found (by simp) positive some_first, sweep_of_found (by simp) positive some_second,
              List.drop_append_of_le_length bounded, List.drop_append_of_le_length bounded]
            have shorter : ((c :: before).drop n).length < (c :: before).length := by
              rw [List.length_drop, List.length_cons]
              omega
            exact prepend replacement _ _ (ih _ (length ▸ shorter) _ rfl)
          · exact same ▸ equal _

/-! ## Names -/

theorem word_append {w key : List Char} (same : key.map foldChar = w) (cs : List Char) :
    word w (key ++ cs) = some (key, cs) := by
  subst same
  induction key with
  | nil => rfl
  | cons c key ih => simp [word, ih]

theorem isPrefix_of_word {w cs taken left : List Char} (found : word w cs = some (taken, left)) :
    w <+: cs.map foldChar := by
  induction w generalizing cs taken with
  | nil => exact List.nil_prefix
  | cons x w ih =>
      cases cs with
      | nil => simp [word] at found
      | cons c cs =>
          rw [word] at found
          split at found
          next same =>
            obtain ⟨⟨y, left'⟩, read, eq⟩ := Option.map_eq_some_iff.mp found
            obtain ⟨-, rfl⟩ := Prod.mk.inj eq
            rw [List.map_cons, beq_iff_eq.mp same, List.cons_prefix_cons]
            exact ⟨rfl, ih read⟩
          · contradiction

/-- No name of a credential starts with another one. -/
theorem credentialNames_apart :
    ∀ name ∈ credentialNames, ∀ other ∈ credentialNames, name.toList <+: other.toList → name = other := by
  decide

/-- A name at the start of a text, in any letter case, is the one that is recognised. -/
theorem oneOf_credentialNames {name : String} (mem : name ∈ credentialNames) {key : List Char}
    (same : key.map foldChar = name.toList) (cs : List Char) :
    oneOf credentialNames (key ++ cs) = some (key, cs) := by
  obtain ⟨earlier, later, split, fresh⟩ := List.eq_append_cons_of_mem mem
  have others : ∀ other ∈ earlier, word other.toList (key ++ cs) = none := by
    intro other other_mem
    have listed : other ∈ credentialNames := split ▸ List.mem_append_left _ other_mem
    cases found : word other.toList (key ++ cs) with
    | none => rfl
    | some outcome =>
        have start := isPrefix_of_word found
        rw [List.map_append, same] at start
        have alike : other = name :=
          (List.prefix_or_prefix_of_prefix start (List.prefix_append ..)).elim
            (credentialNames_apart other listed name mem)
            fun longer => (credentialNames_apart name mem other listed longer).symm
        exact absurd (alike ▸ other_mem) fresh
  rw [oneOf, split, List.findSome?_append, List.findSome?_eq_none_iff.mpr others, Option.none_or,
    List.findSome?_cons, word_append same]

theorem foldChar_of_ascii {c : Char} (ascii : c.toNat < 0x80) : foldChar c = c.toLower := by
  have not_long_s : ¬c.toNat = 0x17F := by omega
  have not_dotted : ¬c.toNat = 0x130 := by omega
  have not_dotless : ¬c.toNat = 0x131 := by omega
  simp [foldChar, Text.lowerChar, ascii, not_long_s, not_dotted, not_dotless]

theorem ascii_of_mem_valueChars : ∀ c ∈ valueChars, c.toNat < 0x80 := by
  decide

/-- A character whose lower-case form may stand in a value may do so itself. -/
theorem mem_valueChars_of_toLower {c : Char} (mem : c.toLower ∈ valueChars) : c ∈ valueChars := by
  have capitals : ∀ n < 0x5B, 0x41 ≤ n → Char.ofNat n ∈ valueChars := by decide
  unfold Char.toLower at mem
  split at mem
  next range =>
    have capital := capitals c.toNat (Nat.lt_succ_of_le range.2) range.1
    rwa [Char.ofNat_toNat] at capital
  · exact mem

/-- A name in any letter case is made of characters of values. -/
theorem mem_valueChars_of_name {name : String} (mem : name ∈ credentialNames) {key : List Char}
    (same : key.map Char.toLower = name.toList) : ∀ c ∈ key, c ∈ valueChars := by
  have letters : ∀ name ∈ credentialNames, ∀ c ∈ name.toList, c ∈ valueChars := by decide
  intro c c_mem
  refine mem_valueChars_of_toLower (letters name mem _ ?_)
  rw [← same]
  exact List.mem_map_of_mem c_mem

/-- The value behind a recognised name is found. -/
theorem assignment_of_name {name : List Char} (separates : isSeparator separator = true)
    (value : IsValue v) (held : ∀ c ∈ name, isAssignmentChar c = true)
    (named : ∀ cs, oneOf credentialNames (name ++ cs) = some (name, cs)) :
    assignment (name ++ separator :: (v ++ rest)) ≠ none := by
  have unquoted : Refuses (· == '"') (name ++ separator :: (v ++ rest)) := by
    cases name with
    | nil => exact refuses_separator _ separates (by decide) _
    | cons c name =>
        rw [List.cons_append, refuses_cons_iff, beq_eq_false_iff_ne]
        rintro rfl
        exact absurd (held '"' List.mem_cons_self) (by decide)
  have no_quote : Refuses (· == '"') (separator :: (v ++ rest)) :=
    refuses_separator _ separates (by decide) _
  have no_blank : Refuses Text.isBlank (separator :: (v ++ rest)) :=
    refuses_separator _ separates (by decide) _
  have sign : one isSeparator (separator :: (v ++ rest)) = some ([separator], v ++ rest) := by
    rw [one, if_pos separates]
  have no_gap : Refuses Text.isBlank (v ++ rest) := value.refuses_blank rest
  have value_unquoted : Refuses (· == '"') (v ++ rest) := value.refuses _ (by decide) rest
  have head := sequence_of_found (optional_of_refuses unquoted) (sequence_of_found (named _)
    (sequence_of_found (optional_of_refuses no_quote) (sequence_of_found (many_of_refuses no_blank)
      (sequence_of_found sign (sequence_of_found (many_of_refuses no_gap) (by rw [sequence]))))))
  obtain ⟨taken, left, found⟩ := value.exists_taken (isNone ",;)\x7d") (by decide) rest
  rw [assignment, keepHead, head]
  simp [quotedText_of_unquoted value_unquoted, found]

/-! ## Two texts -/

/-- The texts are the same, or they differ in the value that they assign to a name. -/
inductive Twins (name : List Char) (separator : Char) (v w a b : List Char) : Prop where
  /-- The texts are the same. -/
  | same (eq : a = b)
  /-- The texts assign two values. -/
  | apart (before rest : List Char) (ends : EndsValue rest)
      (split_first : a = before ++ (name ++ separator :: (v ++ rest)))
      (split_second : b = before ++ (name ++ separator :: (w ++ rest)))

theorem Twins.prepend {name a b : List Char} (front : List Char) (twins : Twins name separator v w a b) :
    Twins name separator v w (front ++ a) (front ++ b) := by
  cases twins with
  | same eq => exact .same (congrArg (front ++ ·) eq)
  | apart before rest ends split_first split_second =>
      refine .apart (front ++ before) rest ends ?_ ?_
      · rw [split_first, List.append_assoc]
      · rw [split_second, List.append_assoc]

section

variable {name a b : List Char} (separates : isSeparator separator = true) (first : IsValue v)
  (second : IsValue w) (held : ∀ c ∈ name, isAssignmentChar c = true)
include separates first second held

/-- A sweep of two texts that differ in an assigned value leaves such texts, or one text. -/
theorem Twins.sweep (covers : Covers rule) (passes : Passes rule) (twins : Twins name separator v w a b) :
    Twins name separator v w (sweep rule 0 a) (sweep rule 0 b) := by
  cases twins with
  | same eq => exact .same (congrArg _ eq)
  | apart before rest ends split_first split_second =>
      rw [split_first, split_second]
      refine covers.sweep_behind separates first second ends held (fun _ => .same rfl)
        (fun front _ _ => .prepend front) ?_ before
      obtain same | ⟨kept_first, kept_second⟩ :=
        covers.sweep_name passes separates first second ends held
      · exact .same same
      · exact .apart [] _ (passes.endsValue ends) kept_first kept_second

/-- The sweep for assignments leaves one text, where it recognises the name. -/
theorem Twins.sweep_assignment
    (named : ∀ cs, oneOf credentialNames (name ++ cs) = some (name, cs))
    (twins : Twins name separator v w a b) :
    Redaction.sweep assignment 0 a = Redaction.sweep assignment 0 b := by
  cases twins with
  | same eq => rw [eq]
  | apart before rest ends split_first split_second =>
      rw [split_first, split_second]
      refine covers_assignment.sweep_behind separates first second ends held (fun _ => rfl)
        (fun front _ _ same => congrArg (front ++ ·) same) ?_ before
      exact (covers_assignment.outcomes_at_name separates first second ends held).resolve_left
        fun missed => assignment_of_name separates first held named missed.1

end

/-- The redaction of a text does not depend on a value that the text assigns to the name of a credential,
in any letter case, whatever stands in front of the name: the value is a text of letters, digits and signs
of addresses, and the text ends behind it or goes on with a comma, a semicolon or a closing bracket. -/
theorem redactText_assignment {name key : String} (listed : name ∈ credentialNames)
    (same : key.toList.map Char.toLower = name.toList) {separator : Char}
    (separates : separator = '=' ∨ separator = ':') {v w rest : String} (first : IsValue v.toList)
    (second : IsValue w.toList) (ends : EndsValue rest.toList) (before : String) :
    redactText (before ++ key ++ String.singleton separator ++ v ++ rest) =
      redactText (before ++ key ++ String.singleton separator ++ w ++ rest) := by
  have separates : isSeparator separator = true := by
    obtain rfl | rfl := separates <;> decide
  have key_chars := mem_valueChars_of_name listed same
  have held : ∀ c ∈ key.toList, isAssignmentChar c = true := fun c mem =>
    List.contains_iff_mem.mpr (List.mem_cons_of_mem _ (List.mem_cons_of_mem _ (key_chars c mem)))
  have folded : key.toList.map foldChar = name.toList := by
    rw [← same]
    exact List.map_congr_left fun c mem =>
      foldChar_of_ascii (ascii_of_mem_valueChars c (key_chars c mem))
  have twins : Twins key.toList separator v.toList w.toList
      (before ++ key ++ String.singleton separator ++ v ++ rest).toList
      (before ++ key ++ String.singleton separator ++ w ++ rest).toList :=
    .apart before.toList rest.toList ends (by simp) (by simp)
  have swept := ((twins.sweep separates first second held covers_header passes_header).sweep separates
    first second held covers_userInfo passes_userInfo).sweep separates first second held covers_query
    passes_query
  rw [redactText, redactText, redactChars, redactChars, swept.sweep_assignment separates first second held
    (oneOf_credentialNames listed folded)]

/-- A value behind the start of an address, of a header and of a query parameter. -/
theorem redactText_assignment_behind :
    let before := "Authorization: Bearer http://user:?token="
    "api_key" ∈ credentialNames ∧ "Api_KEY".toList.map Char.toLower = "api_key".toList ∧
      IsValue "basic".toList ∧ IsValue "a-1~".toList ∧ EndsValue "; see @host".toList ∧
      redactText (before ++ "Api_KEY" ++ String.singleton ':' ++ "basic" ++ "; see @host") =
        redactText (before ++ "Api_KEY" ++ String.singleton ':' ++ "a-1~" ++ "; see @host") := by
  have listed : "api_key" ∈ credentialNames := by decide
  have same : "Api_KEY".toList.map Char.toLower = "api_key".toList := by decide
  have first : IsValue "basic".toList := ⟨by decide, by decide⟩
  have second : IsValue "a-1~".toList := ⟨by decide, by decide⟩
  have ends : EndsValue "; see @host".toList := by
    intro c start
    obtain rfl : ';' = c := Option.some.inj start
    decide
  exact ⟨listed, same, first, second, ends,
    redactText_assignment listed same (.inr rfl) first second ends _⟩

end Reconciler.Redaction
