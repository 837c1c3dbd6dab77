import Reconciler.Proofs.Redaction.Recognition

/-!
# Sweeps

A sweep replaces the matches of one rule from left to right.  A rule that stays alongside two texts
replaces the same in the front that they have in common; and a rule whose matches never end inside a run
of a class of characters takes such a run as a whole or leaves it as it is.  An end that no match reaches
into stays at the end of the text.
-/

namespace Reconciler.Redaction

variable {a b front : List Char} {inner : Char → Bool} {head tail : List Char → Recognised}
  {rule : Rule} {ending : String}

theorem sweep_eq_drop (rule : Rule) (n : Nat) (cs : List Char) :
    sweep rule n cs = sweep rule 0 (cs.drop n) := by
  induction n generalizing cs with
  | zero => rw [List.drop_zero]
  | succ n ih =>
      cases cs with
      | nil => rw [List.drop_nil, sweep, sweep]
      | cons c cs => rw [sweep, List.drop_succ_cons, ih]

theorem sweep_cons_of_missed {c : Char} {cs : List Char} (missed : rule (c :: cs) = none) :
    sweep rule 0 (c :: cs) = c :: sweep rule 0 cs := by
  rw [sweep, missed]

theorem sweep_of_found {cs replacement : List Char} {n : Nat} (nonempty : cs ≠ []) (positive : 0 < n)
    (found : rule cs = some (replacement, n)) :
    sweep rule 0 cs = replacement ++ sweep rule 0 (cs.drop n) := by
  obtain ⟨c, cs, rfl⟩ := List.exists_cons_of_ne_nil nonempty
  obtain ⟨n, rfl⟩ := Nat.exists_eq_add_one.mpr positive
  rw [sweep, found]
  simp only [Nat.add_sub_cancel, List.drop_succ_cons, sweep_eq_drop rule n]

/-! ## Rules on two texts -/

/-- The outcomes of a rule on two texts that follow a front: it matches neither, or it replaces the same
part of the front in both, or the front with all that the texts have in front of one rest. -/
inductive Agree (front a b : List Char) (first second : Option (List Char × Nat)) : Prop where
  /-- Neither text is matched. -/
  | missed (none_first : first = none) (none_second : second = none)
  /-- A part of the front is replaced. -/
  | within (replacement : List Char) (n : Nat) (bounded : n ≤ front.length)
      (some_first : first = some (replacement, n)) (some_second : second = some (replacement, n))
  /-- The front is replaced, and what the texts have of their own. -/
  | beyond (replacement x y rest : List Char) (split_first : a = x ++ rest)
      (split_second : b = y ++ rest)
      (some_first : first = some (replacement, front.length + x.length))
      (some_second : second = some (replacement, front.length + y.length))

/-- A head that stays inside the front, and a tail that does not tell the texts apart. -/
theorem agree_keepHead (inside : Inside front a b (head (front ++ a)) (head (front ++ b)))
    (blind : Blind a b tail) (ending : String) :
    Agree front a b (keepHead head tail ending (front ++ a))
      (keepHead head tail ending (front ++ b)) := by
  unfold keepHead
  cases inside with
  | missed none_first none_second =>
      rw [none_first, none_second]
      exact .missed rfl rfl
  | within taken left split some_first some_second =>
      rw [some_first, some_second]
      cases blind left with
      | inside inside =>
          cases inside with
          | missed none_first none_second =>
              exact .missed (by simp [none_first]) (by simp [none_second])
          | within taken' left' split' some_first some_second =>
              refine .within (taken ++ ending.toList) (taken.length + taken'.length) ?_
                (by simp [some_first]) (by simp [some_second])
              rw [split, split', List.length_append, List.length_append]
              omega
      | beyond x y rest split_first split_second some_first some_second =>
          refine .beyond (taken ++ ending.toList) x y rest split_first split_second ?_ ?_
          · simp [some_first, split, Nat.add_assoc]
          · simp [some_second, split, Nat.add_assoc]

/-- Where the tail fails behind whatever the head takes, the rule matches nothing. -/
theorem keepHead_of_missed {cs : List Char}
    (missed : ∀ taken rest, head cs = some (taken, rest) → tail rest = none) :
    keepHead head tail ending cs = none := by
  unfold keepHead
  cases found : head cs with
  | none => rfl
  | some outcome => simp [missed outcome.1 outcome.2 found]

/-! ## Ends of matches -/

/-- What is taken from a text is not empty, and does not end between two characters of the class. -/
def EndsOutside (inner : Char → Bool) (taken rest : List Char) : Prop :=
  taken ≠ [] ∧ (Refuses inner taken.reverse ∨ Refuses inner rest)

theorem EndsOutside.prepend {taken rest : List Char} (outside : EndsOutside inner taken rest)
    (front : List Char) : EndsOutside inner (front ++ taken) rest := by
  obtain ⟨nonempty, ending⟩ := outside
  refine ⟨by simp [nonempty], ending.imp_left fun refuses => ?_⟩
  obtain ⟨c, before, eq⟩ := List.exists_cons_of_ne_nil (mt List.reverse_eq_nil_iff.mp nonempty)
  rw [eq] at refuses
  simpa [List.reverse_append, eq] using refuses

/-- What ends outside the class ends in front of a run of the class, or holds the run as a whole. -/
theorem EndsOutside.spares_run {taken rest before run after : List Char}
    (outside : EndsOutside inner taken rest) (held : ∀ c ∈ run, inner c = true)
    (split : before ++ (run ++ after) = taken ++ rest) :
    taken.length ≤ before.length ∨ before.length + run.length ≤ taken.length := by
  by_contra inside
  rw [not_or, Nat.not_le, Nat.not_le] at inside
  obtain ⟨more, rfl, own⟩ | ⟨more, rfl, -⟩ := List.append_eq_append_iff.mp split
  · obtain ⟨late, rfl, -⟩ | ⟨late, rfl, rfl⟩ := List.append_eq_append_iff.mp own
    · simp only [List.length_append] at inside
      omega
    · -- The last character that is taken and the first that is not are both of the run.
      simp only [List.length_append] at inside
      have more_ne : more.reverse ≠ [] := by
        rw [Ne, List.reverse_eq_nil_iff, ← List.length_eq_zero_iff]
        omega
      have late_ne : late ≠ [] := by
        rw [Ne, ← List.length_eq_zero_iff]
        omega
      obtain ⟨c, _, last⟩ := List.exists_cons_of_ne_nil more_ne
      obtain ⟨d, _, rfl⟩ := List.exists_cons_of_ne_nil late_ne
      have last_mem : c ∈ more := List.mem_reverse.mp (last ▸ List.mem_cons_self)
      have last_held := held c (List.mem_append_left _ last_mem)
      have next_held := held d (List.mem_append_right _ List.mem_cons_self)
      rcases outside.2 with refuses | refuses
      · simp [List.reverse_append, last, last_held] at refuses
      · simp [next_held] at refuses
  · simp only [List.length_append] at inside
    omega

/-- The recogniser never ends inside a run of the class. -/
def TakesRuns (inner : Char → Bool) (part : List Char → Recognised) : Prop :=
  ∀ cs taken rest, part cs = some (taken, rest) → EndsOutside inner taken rest

/-- No match of the rule ends inside a run of the class. -/
def MatchesRuns (inner : Char → Bool) (rule : Rule) : Prop :=
  ∀ cs replacement n, rule cs = some (replacement, n) →
    ∃ taken rest, cs = taken ++ rest ∧ taken.length = n ∧ EndsOutside inner taken rest

theorem Refuses.mono {accepts : Char → Bool} {cs : List Char} (refuses : Refuses accepts cs)
    (accepted : ∀ c, inner c = true → accepts c = true) : Refuses inner cs := by
  intro c start
  by_contra held
  rw [Bool.not_eq_false] at held
  have refused := refuses c start
  rw [accepted c held] at refused
  contradiction

theorem takesRuns_some_ {accepts : Char → Bool} (accepted : ∀ c, inner c = true → accepts c = true) :
    TakesRuns inner (some_ accepts) := by
  intro cs taken rest found
  rw [some_] at found
  split at found
  · contradiction
  next nonempty =>
    obtain ⟨rfl, rfl⟩ := Prod.mk.inj (Option.some.inj found)
    exact ⟨by simpa using nonempty, .inr ((refuses_dropWhile accepts cs).mono accepted)⟩

theorem takesRuns_one {accepts : Char → Bool} (refused : ∀ c, accepts c = true → inner c = false) :
    TakesRuns inner (one accepts) := by
  intro cs taken rest found
  cases cs with
  | nil => simp [one] at found
  | cons c cs =>
      rw [one] at found
      split at found
      next accepted =>
        obtain ⟨rfl, rfl⟩ := Prod.mk.inj (Option.some.inj found)
        exact ⟨by simp, .inl (by simpa using refused c accepted)⟩
      · contradiction

theorem takesRuns_sequence (parts : List (List Char → Recognised)) {last : List Char → Recognised}
    (ends : TakesRuns inner last) : TakesRuns inner (sequence (parts ++ [last])) := by
  intro cs taken rest found
  rw [sequence_append, sequence_singleton] at found
  obtain ⟨⟨x, left⟩, -, found⟩ := Option.bind_eq_some_iff.mp found
  obtain ⟨⟨y, left'⟩, read, same⟩ := Option.map_eq_some_iff.mp found
  obtain ⟨rfl, rfl⟩ := Prod.mk.inj same
  exact (ends _ _ _ read).prepend x

theorem takesRuns_orElse {part other : List Char → Recognised} (ends : TakesRuns inner part)
    (ends_other : TakesRuns inner other) :
    TakesRuns inner fun cs => (part cs).orElse fun _ => other cs := by
  intro cs taken rest found
  cases outcome : part cs with
  | none => exact ends_other cs taken rest (by simpa [outcome] using found)
  | some outcome' => exact ends cs taken rest (by simpa [outcome] using found)

theorem takesRuns_quotedText (refused : inner '"' = false) : TakesRuns inner quotedText := by
  intro cs taken rest found
  have last : taken.getLast? = some '"' := by
    unfold quotedText at found
    split at found
    next cs =>
      split at found
      next q left stopped =>
        have quote : q = '"' := by
          have refuses := refuses_dropWhile (· != '"') cs
          rw [stopped] at refuses
          simpa using refuses
        obtain ⟨rfl, rfl⟩ := Prod.mk.inj (Option.some.inj found)
        rw [quote]
        exact List.getLast?_concat
      · contradiction
    · contradiction
  refine ⟨fun empty => by simp [empty] at last, .inl fun c start => ?_⟩
  rw [List.head?_reverse, last] at start
  rw [← Option.some.inj start]
  exact refused

/-- A match of the rule is a head that is kept, in front of what the tail takes; an ending is written in
the place of the latter. -/
def Masks (tail : List Char → Recognised) (ending : String) (rule : Rule) : Prop :=
  ∀ cs replacement n, rule cs = some (replacement, n) →
    ∃ kept masked rest, cs = kept ++ masked ++ rest ∧ n = (kept ++ masked).length ∧
      replacement = kept ++ ending.toList ∧ tail (masked ++ rest) = some (masked, rest)

theorem masks_keepHead (reads_head : Reads head) (reads_tail : Reads tail) (ending : String) :
    Masks tail ending (keepHead head tail ending) := by
  intro cs replacement n found
  unfold keepHead at found
  obtain ⟨⟨kept, left⟩, first, found⟩ := Option.bind_eq_some_iff.mp found
  obtain ⟨⟨masked, rest⟩, second, found⟩ := Option.bind_eq_some_iff.mp found
  obtain ⟨rfl, rfl⟩ := Prod.mk.inj (Option.some.inj found)
  have split := reads_tail _ _ _ second
  refine ⟨kept, masked, rest, ?_, List.length_append.symm, rfl, split ▸ second⟩
  rw [reads_head _ _ _ first, List.append_assoc]
  exact congrArg (kept ++ ·) split

theorem Masks.matchesRuns (masks : Masks tail ending rule) (ends : TakesRuns inner tail) :
    MatchesRuns inner rule := by
  intro cs replacement n found
  obtain ⟨kept, masked, rest, split, rfl, -, taken⟩ := masks _ _ _ found
  exact ⟨kept ++ masked, rest, split, rfl, (ends _ _ _ taken).prepend kept⟩

theorem MatchesRuns.pos (runs : MatchesRuns inner rule) {cs replacement : List Char} {n : Nat}
    (found : rule cs = some (replacement, n)) : 0 < n := by
  obtain ⟨taken, _, -, rfl, nonempty, -⟩ := runs _ _ _ found
  exact List.length_pos_iff.mpr nonempty

/-! ## Texts that a sweep leaves -/

variable {accepts : Char → Bool} {closed : List Char}

/-- The rule matches no text without characters of the class. -/
def Needs (accepts : Char → Bool) (rule : Rule) : Prop :=
  ∀ cs, (∀ c ∈ cs, accepts c = false) → rule cs = none

theorem Needs.sweep (needs : Needs accepts rule) {cs : List Char}
    (absent : ∀ c ∈ cs, accepts c = false) : Redaction.sweep rule 0 cs = cs := by
  induction cs with
  | nil => rw [Redaction.sweep]
  | cons c cs ih =>
      rw [sweep_cons_of_missed (needs _ absent), ih (List.forall_mem_cons.mp absent).2]

/-! ## Sweeps in front of an end -/

/-- What holds of the end alone, and is passed on by each step of the sweep, holds of the sweep of any
text with that end. -/
theorem sweep_append_induction {motive : List Char → List Char → Prop} (closed : List Char)
    (positive : ∀ cs replacement n, rule cs = some (replacement, n) → 0 < n)
    (start : motive [] (sweep rule 0 closed))
    (missed : ∀ c front swept, motive front swept → motive (c :: front) (c :: swept))
    (within : ∀ front replacement n swept, rule (front ++ closed) = some (replacement, n) →
      n ≤ front.length → motive (front.drop n) swept → motive front (replacement ++ swept))
    (beyond : ∀ front replacement n, rule (front ++ closed) = some (replacement, n) →
      front.length < n → motive front (replacement ++ sweep rule 0 ((front ++ closed).drop n)))
    (front : List Char) : motive front (sweep rule 0 (front ++ closed)) := by
  induction length : front.length using Nat.strong_induction_on generalizing front with
  | _ _ ih =>
      cases front with
      | nil => exact start
      | cons c front =>
          cases found : rule (c :: front ++ closed) with
          | none =>
              rw [List.cons_append] at found ⊢
              rw [sweep_cons_of_missed found]
              have shorter : front.length < (c :: front).length := Nat.lt_succ_self _
              exact missed c front _ (ih _ (length ▸ shorter) front rfl)
          | some outcome =>
              obtain ⟨replacement, n⟩ := outcome
              have n_pos := positive _ _ _ found
              rw [sweep_of_found (by simp) n_pos found]
              by_cases bounded : n ≤ (c :: front).length
              · rw [List.drop_append_of_le_length bounded]
                have shorter : ((c :: front).drop n).length < (c :: front).length := by
                  rw [List.length_drop, List.length_cons]
                  omega
                exact within _ _ n _ found bounded (ih _ (length ▸ shorter) _ rfl)
              · exact beyond _ _ n found (Nat.lt_of_not_le bounded)

/-- The matches of the rule in a text with this end do not reach into the end. -/
def StaysBefore (closed : List Char) (rule : Rule) : Prop :=
  ∀ front replacement n, rule (front ++ closed) = some (replacement, n) → n ≤ front.length

/-- A rule that stays before an end leaves the end, and behind it nothing but what stood in front of it and
the endings. -/
theorem Masks.sweep_of_staysBefore (masks : Masks tail ending rule) (runs : MatchesRuns inner rule)
    (stays : StaysBefore closed rule) (quiet : sweep rule 0 closed = closed) (front : List Char) :
    ∃ kept, sweep rule 0 (front ++ closed) = kept ++ closed ∧
      ∀ c ∈ kept, c ∈ front ∨ c ∈ ending.toList := by
  refine sweep_append_induction
    (motive := fun front swept => ∃ kept, swept = kept ++ closed ∧
      ∀ c ∈ kept, c ∈ front ∨ c ∈ ending.toList)
    closed (fun _ _ _ => runs.pos) ⟨[], quiet, by simp⟩ ?_ ?_ ?_ front
  · rintro c front _ ⟨kept, rfl, held⟩
    refine ⟨c :: kept, rfl, List.forall_mem_cons.mpr ⟨.inl List.mem_cons_self, fun d mem => ?_⟩⟩
    exact (held d mem).imp_left (List.mem_cons_of_mem c)
  · rintro front _ n _ found bounded ⟨behind, rfl, held⟩
    obtain ⟨kept, masked, rest, split, rfl, rfl, -⟩ := masks _ _ _ found
    have start : kept <+: front := by
      have whole : kept <+: front ++ closed := ⟨masked ++ rest, by rw [split, List.append_assoc]⟩
      refine List.prefix_of_prefix_length_le whole (List.prefix_append ..) ?_
      rw [List.length_append] at bounded
      omega
    refine ⟨kept ++ ending.toList ++ behind, by simp, fun c mem => ?_⟩
    rw [List.append_assoc, List.mem_append, List.mem_append] at mem
    obtain mem | mem | mem := mem
    · exact .inl (start.subset mem)
    · exact .inr mem
    · exact (held c mem).imp_left List.mem_of_mem_drop
  · intro front replacement n found longer
    exact absurd (stays front replacement n found) (Nat.not_le_of_lt longer)

/-- A rule that takes the end as a run leaves it, or writes its ending there. -/
theorem Masks.sweep_of_run (masks : Masks tail ending rule) (runs : MatchesRuns inner rule)
    (held : ∀ c ∈ closed, inner c = true) (quiet : sweep rule 0 closed = closed) (front : List Char) :
    ∃ kept, sweep rule 0 (front ++ closed) = kept ++ closed ∨
      sweep rule 0 (front ++ closed) = kept ++ ending.toList := by
  refine sweep_append_induction
    (motive := fun _ swept => ∃ kept, swept = kept ++ closed ∨ swept = kept ++ ending.toList)
    closed (fun _ _ _ => runs.pos) ⟨[], .inl quiet⟩ ?_ ?_ ?_ front
  · rintro c _ _ ⟨kept, rfl | rfl⟩
    · exact ⟨c :: kept, .inl rfl⟩
    · exact ⟨c :: kept, .inr rfl⟩
  · rintro _ replacement _ _ - - ⟨kept, rfl | rfl⟩
    · exact ⟨replacement ++ kept, .inl (List.append_assoc ..).symm⟩
    · exact ⟨replacement ++ kept, .inr (List.append_assoc ..).symm⟩
  · intro front replacement n found longer
    obtain ⟨taken, rest, split, rfl, outside⟩ := runs _ _ _ found
    obtain ⟨kept, masked, _, _, _, rfl, -⟩ := masks _ _ _ found
    have whole : front ++ (closed ++ []) = taken ++ rest := by rw [List.append_nil, split]
    have covered := (outside.spares_run held whole).resolve_left (Nat.not_le_of_lt longer)
    rw [List.drop_eq_nil_of_le (by rw [List.length_append]; exact covered), sweep, List.append_nil]
    exact ⟨kept, .inr rfl⟩

end Reconciler.Redaction
