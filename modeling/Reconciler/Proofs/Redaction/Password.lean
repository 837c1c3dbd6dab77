import Mathlib.Data.List.Basic
import Reconciler.Proofs.Json.Escapes
import Reconciler.Proofs.Redaction.Rules

/-!
# A password in a written map

The written form of a map with one password, after the redaction.  The rule for assignments takes the
value up to the next quote, also where that quote is escaped.  The password is masked as a whole exactly
where the sweeps in front of the one for assignments leave it between two quotes without a quote inside.
-/

namespace Reconciler.Redaction

/-! ## The written map -/

/-- The map that holds a password. -/
def passwordMap (s : String) : Value :=
  .map [(.text "password", .text s)]

/-- What stands in front of the password in the written map. -/
def opening : List Char :=
  "\x7b\"password\": \"".toList

/-- What stands behind the password in the written map. -/
def closing : List Char :=
  ['"', '\x7d']

/-- The text after the sweeps in front of the one for assignments. -/
def unassigned (cs : List Char) : List Char :=
  sweep query 0 (sweep userInfo 0 (sweep header 0 cs))

/-- The sweeps in front of the one for assignments leave the password between two quotes, and no quote
inside of it. -/
def Enclosed (ascii : Bool) (s : String) : Prop :=
  ∃ inside, '"' ∉ inside ∧
    unassigned (Json.text ascii (passwordMap s)).toList = opening ++ (inside ++ closing)

theorem text_passwordMap (ascii : Bool) (s : String) :
    (Json.text ascii (passwordMap s)).toList =
      opening ++ (Json.written ascii s.toList ++ closing) := by
  have name : Json.written ascii "password".toList = "password".toList := by
    cases ascii <;> decide
  have text : Json.text ascii (passwordMap s) =
      "\x7b" ++ (Json.string ascii "password" ++ ": " ++ Json.string ascii s) ++ "\x7d" := rfl
  simp only [text, String.toList_append, Json.toList_string, name]
  exact congrArg (opening ++ ·) (List.append_assoc ..)

theorem unassigned_opening (cs : List Char) : unassigned (opening ++ cs) = opening ++ unassigned cs := by
  have kept_header : sweep header 0 (opening ++ cs) = opening ++ sweep header 0 cs := rfl
  have kept_userInfo (cs : List Char) :
      sweep userInfo 0 (opening ++ cs) = opening ++ sweep userInfo 0 cs := rfl
  have kept_query (cs : List Char) : sweep query 0 (opening ++ cs) = opening ++ sweep query 0 cs := rfl
  rw [unassigned, kept_header, kept_userInfo, kept_query, unassigned]

/-! ## In front of the assignments -/

/-- What goes beyond the front of the written map goes into its end. -/
theorem exists_beyond {front taken rest : List Char} (split : front ++ closing = taken ++ rest)
    (longer : front.length < taken.length) :
    ∃ c more, taken = front ++ c :: more ∧ closing = c :: more ++ rest := by
  obtain ⟨more, rfl, same⟩ | ⟨more, rfl, -⟩ := List.append_eq_append_iff.mp split
  · cases more with
    | nil => simp at longer
    | cons c more => exact ⟨c, more, rfl, same⟩
  · simp only [List.length_append] at longer
    omega

theorem taken_of_credentials {cs taken rest : List Char}
    (found : credentials cs = some (taken, rest)) : 2 ≤ taken.length ∧ '"' ∉ taken := by
  rw [credentials, sequence, sequence_singleton] at found
  obtain ⟨⟨gap, left⟩, read, found⟩ := Option.bind_eq_some_iff.mp found
  obtain ⟨⟨secret, left'⟩, read', same⟩ := Option.bind_eq_some_iff.mp found
  obtain ⟨rfl, rfl⟩ := Prod.mk.inj (Option.some.inj same)
  obtain ⟨gap_ne, blank⟩ := taken_of_some_ read
  obtain ⟨secret_ne, unquoted⟩ := taken_of_some_ read'
  refine ⟨?_, fun mem => ?_⟩
  · have := List.length_pos_iff.mpr gap_ne
    have := List.length_pos_iff.mpr secret_ne
    rw [List.length_append]
    omega
  · rcases List.mem_append.mp mem with mem | mem
    · exact absurd (blank _ mem) (by decide)
    · exact absurd (unquoted _ mem) (by decide)

/-- The credentials of a header are more than the bracket behind the last quote. -/
theorem header_staysBefore : StaysBefore closing header := by
  intro front replacement n found
  obtain ⟨kept, masked, rest, split, rfl, -, taken⟩ := masks_header _ _ _ found
  obtain ⟨two, unquoted⟩ := taken_of_credentials taken
  by_contra longer
  obtain ⟨c, more, same, ends⟩ := exists_beyond split (Nat.lt_of_not_le longer)
  -- The match takes the closing quote, and at most the bracket behind it: too few for the credentials.
  rw [List.cons_append] at ends
  obtain ⟨rfl, bracket⟩ := List.cons.inj ends
  have short : more.length ≤ 1 := by
    have := congrArg List.length bracket
    rw [List.length_append, List.length_singleton] at this
    omega
  obtain ⟨between, -, rfl⟩ | ⟨between, -, own⟩ := List.append_eq_append_iff.mp same
  · exact unquoted (by simp)
  · have lengths := congrArg List.length own
    rw [List.length_append, List.length_cons] at lengths
    obtain rfl : between = [] := List.length_eq_zero_iff.mp (by omega)
    rw [List.nil_append] at own
    exact unquoted (own ▸ List.mem_cons_self)

/-- A user name and a password end with a sign that is not in the end of the written map. -/
theorem userInfo_staysBefore : StaysBefore closing userInfo := by
  intro front replacement n found
  obtain ⟨kept, masked, rest, split, rfl, -, taken⟩ := masks_userInfo _ _ _ found
  obtain ⟨before, sign, rfl, accepted⟩ := last_of_sequence [_, _, _] taken
  by_contra longer
  obtain ⟨c, more, same, ends⟩ := exists_beyond split (Nat.lt_of_not_le longer)
  have last : (c :: more).getLast? = some sign := by
    have := congrArg List.getLast? same
    rw [← List.append_assoc, List.getLast?_concat, List.getLast?_append_of_ne_nil _ (by simp)] at this
    exact this.symm
  have mem : sign ∈ closing := ends ▸ List.mem_append_left _ (List.mem_of_getLast? last)
  rw [beq_iff_eq.mp accepted] at mem
  exact absurd mem (by decide)

/-- The sweeps for headers and addresses leave the end of the written map, and behind it nothing new but
masks. -/
theorem sweep_userInfo_header (cs : List Char) :
    ∃ kept, sweep userInfo 0 (sweep header 0 (cs ++ closing)) = kept ++ closing ∧
      ∀ c ∈ kept, c ∈ cs ∨ c ∈ (" " ++ mask ++ "@").toList := by
  obtain ⟨first, eq_first, held_first⟩ :=
    masks_header.sweep_of_staysBefore covers_header.runs header_staysBefore rfl cs
  obtain ⟨second, eq_second, held_second⟩ :=
    masks_userInfo.sweep_of_staysBefore covers_userInfo.runs userInfo_staysBefore rfl first
  refine ⟨second, by rw [eq_first, eq_second], fun c mem => ?_⟩
  have endings : ∀ c ∈ (" " ++ mask).toList ++ (mask ++ "@").toList,
      c ∈ (" " ++ mask ++ "@").toList := by decide
  obtain mem | mem := held_second c mem
  · exact (held_first c mem).imp_right fun mem => endings c (List.mem_append_left _ mem)
  · exact .inr (endings c (List.mem_append_right _ mem))

/-- The sweeps in front of the one for assignments leave the end of the written map, or a mask there. -/
theorem unassigned_closing (cs : List Char) :
    ∃ kept, unassigned (cs ++ closing) = kept ++ closing ∨
      unassigned (cs ++ closing) = kept ++ mask.toList := by
  obtain ⟨kept, eq, -⟩ := sweep_userInfo_header cs
  have runs : MatchesRuns closing.contains query := by
    refine masks_query.matchesRuns (takesRuns_some_ fun c held => ?_)
    revert c
    simpa using show ∀ c ∈ closing, isNone "&#" c = true by decide
  rw [unassigned, eq]
  exact masks_query.sweep_of_run runs (by simp) rfl kept

/-! ## The assignment -/

/-- What the redaction shows in front of the rest of the written map. -/
def shown : List Char :=
  "\x7b\"password\": ".toList ++ mask.toList

theorem assigned_of_closed {inside rest : List Char} (unquoted : '"' ∉ inside) :
    assigned ('"' :: (inside ++ '"' :: rest)) = some ('"' :: inside ++ ['"'], rest) := by
  rw [assigned, quotedText_of_closed unquoted rest, Option.orElse_some]

theorem assigned_of_open {cs : List Char} (unquoted : '"' ∉ cs) :
    assigned ('"' :: cs) =
      some ('"' :: cs.takeWhile (isNone ",;)\x7d"), cs.dropWhile (isNone ",;)\x7d")) := by
  rw [assigned, quotedText_of_open unquoted, Option.orElse_none]
  rfl

theorem sweep_assignment_opening {cs taken rest : List Char}
    (found : assigned ('"' :: cs) = some (taken, rest)) :
    sweep assignment 0 (opening ++ cs) = shown ++ sweep assignment 0 rest := by
  have name : sequence [oneOf credentialNames, optional (· == '"'), many Text.isBlank,
      one isSeparator, many Text.isBlank] ("password\": ".toList ++ '"' :: cs) =
      some ("password\": ".toList, '"' :: cs) :=
    rfl
  have head : sequence [optional (· == '"'), oneOf credentialNames, optional (· == '"'),
      many Text.isBlank, one isSeparator, many Text.isBlank] ("\"password\": ".toList ++ '"' :: cs) =
      some ("\"password\": ".toList, '"' :: cs) :=
    sequence_of_found (show optional (· == '"') _ = some (['"'], _) from rfl) name
  have matched : assignment ("\"password\": ".toList ++ '"' :: cs) =
      some ("\"password\": ".toList ++ mask.toList, "\"password\": ".toList.length + taken.length) := by
    rw [assignment, keepHead, head]
    change (assigned ('"' :: cs)).bind _ = _
    rw [found]
    rfl
  have left : ("\"password\": ".toList ++ '"' :: cs).drop
      ("\"password\": ".toList.length + taken.length) = rest := by
    have read : '"' :: cs = taken ++ rest :=
      reads_orElse reads_quotedText (reads_some_ _) _ _ _ found
    rw [read, List.drop_length_add_append, List.drop_left]
  have bracket : assignment (opening ++ cs) = none := rfl
  calc sweep assignment 0 (opening ++ cs)
      = '\x7b' :: sweep assignment 0 ("\"password\": ".toList ++ '"' :: cs) :=
        sweep_cons_of_missed bracket
    _ = '\x7b' :: ("\"password\": ".toList ++ mask.toList ++ sweep assignment 0 rest) := by
        rw [sweep_of_found (by simp) (Nat.add_pos_left (by decide) _) matched, left]
    _ = shown ++ sweep assignment 0 rest := rfl

/-- A sweep that leaves less than a mask changes nothing. -/
theorem sweep_assignment_of_short {cs : List Char}
    (short : (sweep assignment 0 cs).length < mask.length) : sweep assignment 0 cs = cs := by
  induction cs with
  | nil => rw [sweep]
  | cons c cs ih =>
      cases found : assignment (c :: cs) with
      | none =>
          rw [sweep_cons_of_missed found] at short ⊢
          rw [ih (Nat.lt_of_succ_lt short)]
      | some outcome =>
          obtain ⟨_, _, _, _, _, ending, _⟩ := masks_assignment _ _ _ found
          rw [sweep_of_found (by simp) (covers_assignment.runs.pos found) found, ending,
            List.length_append, List.length_append, String.length_toList] at short
          omega

/-- Nothing but the bracket is shown behind the mask exactly where the value ends at the last quote. -/
theorem sweep_assignment_opening_iff {cs : List Char}
    (ends : ∃ kept, cs = kept ++ closing ∨ cs = kept ++ mask.toList) :
    sweep assignment 0 (opening ++ cs) = shown ++ ['\x7d'] ↔
      ∃ inside, '"' ∉ inside ∧ cs = inside ++ closing := by
  constructor
  · intro masked
    have alone {taken rest : List Char} (found : assigned ('"' :: cs) = some (taken, rest)) :
        rest = ['\x7d'] := by
      rw [sweep_assignment_opening found, List.append_cancel_left_eq] at masked
      have short : (sweep assignment 0 rest).length < mask.length := by
        rw [masked]
        decide
      rw [← sweep_assignment_of_short short, masked]
    by_cases quoted : '"' ∈ cs
    · obtain ⟨inside, rest, rfl, unquoted⟩ := List.eq_append_cons_of_mem quoted
      rw [alone (assigned_of_closed unquoted)]
      exact ⟨inside, unquoted, rfl⟩
    · -- The value ends in front of the bracket, so that neither a quote nor a mask stands there.
      have last : cs.getLast? = some '\x7d' := by
        rw [← List.takeWhile_append_dropWhile (p := isNone ",;)\x7d") (l := cs),
          alone (assigned_of_open quoted), List.getLast?_concat]
      obtain ⟨kept, rfl | rfl⟩ := ends
      · exact absurd (by simp [closing]) quoted
      · rw [List.getLast?_append_of_ne_nil _ (by decide)] at last
        exact absurd last (by decide)
  · rintro ⟨inside, unquoted, rfl⟩
    rw [closing, sweep_assignment_opening (assigned_of_closed unquoted)]
    rfl

/-! ## The redaction of the written map -/

theorem redactChars_opening (cs : List Char) :
    redactChars (opening ++ cs) = sweep assignment 0 (opening ++ unassigned cs) := by
  rw [← unassigned_opening]
  rfl

theorem enclosed_iff (ascii : Bool) (s : String) :
    Enclosed ascii s ↔ ∃ inside, '"' ∉ inside ∧
      unassigned (Json.written ascii s.toList ++ closing) = inside ++ closing := by
  unfold Enclosed
  rw [text_passwordMap, unassigned_opening]
  simp only [List.append_cancel_left_eq]

/-- A password without quotes and without the signs that start a query parameter stays enclosed. -/
theorem enclosed_of_absent (ascii : Bool) {s : String} (absent : ∀ c ∈ ['"', '?', '&'], c ∉ s.toList) :
    Enclosed ascii s := by
  obtain ⟨kept, eq, held⟩ := sweep_userInfo_header (Json.written ascii s.toList)
  have absent_kept : ∀ c ∈ ['"', '?', '&'], c ∉ kept := by
    intro c mem stands
    have other : ∀ c ∈ ['"', '?', '&'], c ∉ Json.escapeChars ∧ c ∉ (" " ++ mask ++ "@").toList := by
      decide
    obtain standing | in_mask := held c stands
    · exact Json.not_mem_written (absent c mem) (other c mem).1 standing
    · exact (other c mem).2 in_mask
  have no_mark : ∀ c ∈ kept ++ closing, (c == '?' || c == '&') = false := by
    intro c mem
    rw [Bool.or_eq_false_iff, beq_eq_false_iff_ne, beq_eq_false_iff_ne]
    obtain mem | mem := List.mem_append.mp mem
    · exact ⟨fun same => absent_kept '?' (by decide) (same ▸ mem),
        fun same => absent_kept '&' (by decide) (same ▸ mem)⟩
    · have marks : ∀ c ∈ closing, c ≠ '?' ∧ c ≠ '&' := by decide
      exact marks c mem
  rw [enclosed_iff, unassigned, eq, needs_query_mark.sweep no_mark]
  exact ⟨kept, absent_kept '"' (by decide), rfl⟩

/-- A password with a quote, and without the separators that every rule needs, is shown from the quote
on. -/
theorem redactChars_of_quote (ascii : Bool) {before after : List Char} (unquoted : '"' ∉ before)
    (absent : ∀ c ∈ [':', '='], c ∉ before ++ after) :
    redactChars (opening ++ (Json.written ascii (before ++ '"' :: after) ++ closing)) =
      shown ++ (Json.written ascii after ++ closing) := by
  have no_separator {cs : List Char} (absent : ∀ c ∈ [':', '='], c ∉ cs) :
      ∀ c ∈ Json.written ascii cs ++ closing, isSeparator c = false := by
    have other : ∀ c ∈ [':', '='], c ∉ Json.escapeChars ∧ c ∉ closing := by decide
    have none : ∀ c ∈ [':', '='], c ∉ Json.written ascii cs ++ closing := fun c mem =>
      List.not_mem_append (Json.not_mem_written (absent c mem) (other c mem).1) (other c mem).2
    intro c mem
    rw [isSeparator, Bool.or_eq_false_iff, beq_eq_false_iff_ne, beq_eq_false_iff_ne]
    exact ⟨fun same => none ':' (by decide) (same ▸ mem), fun same => none '=' (by decide) (same ▸ mem)⟩
  have absent_before : ∀ c ∈ Json.written ascii (before ++ '"' :: after) ++ closing,
      isSeparator c = false := by
    refine no_separator fun c mem => ?_
    have other : ∀ c ∈ [':', '='], c ≠ '"' := by decide
    simpa [other c mem] using absent c mem
  have absent_after : ∀ c ∈ Json.written ascii after ++ closing, isSeparator c = false :=
    no_separator fun c mem held => absent c mem (List.mem_append_right _ held)
  have unquoted_written : '"' ∉ Json.written ascii before ++ ['\\'] :=
    List.not_mem_append (Json.not_mem_written unquoted (by decide)) (by decide)
  rw [redactChars_opening, unassigned, needs_header.sweep absent_before,
    needs_userInfo.sweep absent_before, needs_query.sweep absent_before, Json.written_append_quote,
    List.append_assoc, List.cons_append, sweep_assignment_opening (assigned_of_closed unquoted_written),
    needs_assignment.sweep absent_after]

/-- The written map with the password masked. -/
def maskedMap : String :=
  "\x7b\"password\": " ++ mask ++ "\x7d"

theorem ofList_shown (cs : List Char) :
    String.ofList (shown ++ (cs ++ closing)) =
      "\x7b\"password\": " ++ mask ++ String.ofList cs ++ "\"\x7d" := by
  apply String.toList_inj.mp
  simp only [String.toList_append, String.toList_ofList, List.append_assoc]
  rfl

/-- The redaction of the written map masks the password exactly where the first three sweeps leave it
enclosed in quotes, as they leave each password without quotes and without the signs that start a query
parameter; and it shows what stands behind the first quote of a password where no separator does. -/
theorem redactText_passwordMap (ascii : Bool) :
    (∀ s, redactText (Json.text ascii (passwordMap s)) = maskedMap ↔ Enclosed ascii s) ∧
      (∀ s : String, (∀ c ∈ ['"', '?', '&'], c ∉ s.toList) → Enclosed ascii s) ∧
        ∀ before after : String, '"' ∉ before.toList →
          (∀ c ∈ [':', '='], c ∉ (before ++ after).toList) →
          redactText (Json.text ascii (passwordMap (before ++ "\"" ++ after))) =
            "\x7b\"password\": " ++ mask ++ String.ofList (Json.written ascii after.toList) ++ "\"\x7d" := by
  refine ⟨fun s => ?_, fun s absent => enclosed_of_absent ascii absent, ?_⟩
  · have masked : maskedMap = String.ofList (shown ++ ['\x7d']) := rfl
    rw [redactText, text_passwordMap, redactChars_opening, masked, String.ofList_inj,
      sweep_assignment_opening_iff (unassigned_closing _), enclosed_iff]
  · intro before after unquoted absent
    have chars : (before ++ "\"" ++ after).toList = before.toList ++ '"' :: after.toList := by
      simp
    have redacted : redactChars (Json.text ascii (passwordMap (before ++ "\"" ++ after))).toList =
        shown ++ (Json.written ascii after.toList ++ closing) := by
      rw [text_passwordMap, chars]
      exact redactChars_of_quote ascii unquoted (by simpa using absent)
    exact (congrArg String.ofList redacted).trans (ofList_shown _)

/-- A password that stays enclosed, and one that is shown from its quote on. -/
theorem redactText_passwordMap_samples :
    redactText (Json.text true (passwordMap "hunter2: \x7bx=1\x7d\n")) = maskedMap ∧
      redactText (Json.text true (passwordMap ("a" ++ "\"" ++ "b"))) =
        "\x7b\"password\": " ++ mask ++ String.ofList (Json.written true "b".toList) ++ "\"\x7d" := by
  obtain ⟨masked_iff, enclosed, quoted⟩ := redactText_passwordMap true
  exact ⟨(masked_iff _).mpr (enclosed _ (by decide)), quoted "a" "b" (by decide) (by decide)⟩

/-- The redaction of the written map tells passwords apart. -/
theorem not_redactText_passwordMap_eq :
    ¬∀ s t : String,
      redactText (Json.text true (passwordMap s)) = redactText (Json.text true (passwordMap t)) := by
  intro same
  exact absurd (same "a\"b" "c") (by decide)

end Reconciler.Redaction
