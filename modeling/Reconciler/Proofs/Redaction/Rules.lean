import Reconciler.Proofs.Redaction.Sweep

/-!
# The rules on two values

Behind a separator no rule tells two values apart: a match that starts in front of the separator ends
there, or it goes on beyond the value.  Name, separator and value of an assignment are one run of
characters, which the rules take as a whole; and the rules that come before the assignments match nowhere
inside a value.  No rule matches a text without separators.
-/

namespace Reconciler.Redaction

/-- The characters of a value: letters and digits, and the signs that stand for themselves in an
address. -/
def valueChars : List Char :=
  "ABCDEFGHIJKLMNOPQRSTUVWXYZabcdefghijklmnopqrstuvwxyz0123456789-_.~+".toList

/-- The characters that may follow a value. -/
def closers : List Char :=
  [',', ';', ')', '\x7d']

/-- The characters of an assignment. -/
def assignmentChars : List Char :=
  ':' :: '=' :: valueChars

/-- The character may stand in an assignment. -/
def isAssignmentChar (c : Char) : Bool :=
  assignmentChars.contains c

/-- The text is a value: one character of a value, or more. -/
def IsValue (v : List Char) : Prop :=
  v ≠ [] ∧ ∀ c ∈ v, c ∈ valueChars

/-- The text is empty, or starts with a character that may follow a value. -/
def EndsValue (rest : List Char) : Prop :=
  ∀ c ∈ rest.head?, c ∈ closers

variable {v w rest : List Char} {separator : Char} {accepts : Char → Bool}

theorem refuses_separator (accepts : Char → Bool) (separates : isSeparator separator = true)
    (refused : ∀ c ∈ [':', '='], accepts c = false) (cs : List Char) :
    Refuses accepts (separator :: cs) := by
  rw [refuses_cons_iff]
  refine refused separator ?_
  simpa [isSeparator] using separates

theorem refuses_name (separates : isSeparator separator = true) (cs : List Char) :
    ∀ name ∈ credentialNames, Refuses (fun c => name.toList.contains (foldChar c)) (separator :: cs) := by
  intro name mem
  refine refuses_separator _ separates ?_ cs
  revert name
  decide

theorem IsValue.refuses (value : IsValue v) (accepts : Char → Bool)
    (refused : ∀ c ∈ valueChars, accepts c = false)
    (cs : List Char) : Refuses accepts (v ++ cs) := by
  obtain ⟨c, v, rfl⟩ := List.exists_cons_of_ne_nil value.1
  rw [List.cons_append, refuses_cons_iff]
  exact refused c (value.2 c List.mem_cons_self)

/-- No blank stands in a value, and none may follow it. -/
theorem isBlank_of_mem : ∀ c ∈ valueChars ++ closers, Text.isBlank c = false := by
  decide

theorem IsValue.refuses_blank (value : IsValue v) (cs : List Char) : Refuses Text.isBlank (v ++ cs) :=
  value.refuses _ (fun c mem => isBlank_of_mem c (List.mem_append_left _ mem)) cs

theorem IsValue.unquoted (value : IsValue v) : '"' ∉ v :=
  fun quoted => absurd (value.2 _ quoted) (by decide)

theorem EndsValue.refuses (ends : EndsValue rest) (refused : ∀ c ∈ closers, accepts c = false) :
    Refuses accepts rest :=
  fun c start => refused c (ends c start)

/-- What is left of a value, and what follows it. -/
theorem refuses_left {u : List Char} (held : ∀ c ∈ u, c ∈ valueChars) (ends : EndsValue rest)
    (refused : ∀ c ∈ valueChars ++ closers, accepts c = false) : Refuses accepts (u ++ rest) := by
  cases u with
  | nil => exact ends.refuses fun c mem => refused c (List.mem_append_right _ mem)
  | cons c u =>
      rw [List.cons_append, refuses_cons_iff]
      exact refused c (List.mem_append_left _ (held c List.mem_cons_self))

theorem IsValue.blind_some_ (first : IsValue v) (second : IsValue w)
    (accepted : ∀ c ∈ valueChars, accepts c = true) (rest : List Char) :
    Blind (v ++ rest) (w ++ rest) (some_ accepts) :=
  Redaction.blind_some_ first.1 second.1 (fun c mem => accepted c (first.2 c mem))
    fun c mem => accepted c (second.2 c mem)

theorem IsValue.exists_taken (value : IsValue v) (accepts : Char → Bool)
    (accepted : ∀ c ∈ valueChars, accepts c = true)
    (rest : List Char) : ∃ taken left, some_ accepts (v ++ rest) = some (taken, left) := by
  obtain ⟨c, v, rfl⟩ := List.exists_cons_of_ne_nil value.1
  have first : accepts c = true := accepted c (value.2 c List.mem_cons_self)
  rw [List.cons_append, some_, List.takeWhile_cons_of_pos first]
  exact ⟨_, _, rfl⟩

/-! ## What the rules mask -/

/-- What announces the scheme of an authorization header. -/
def announcement : List (List Char → Recognised) :=
  [word "authorization".toList, optional isQuote, many Text.isBlank, one isSeparator,
    many Text.isBlank, optional isQuote]

/-- The schemes of an authorization header. -/
def schemes : List String :=
  ["basic", "bearer"]

/-- The credentials behind the scheme of an authorization header. -/
def credentials : List Char → Recognised :=
  sequence [some_ Text.isBlank, some_ fun c => isNone ",;)\"" c && c != Text.singleQuote]

theorem header_eq :
    header = keepHead (sequence (announcement ++ [oneOf schemes])) credentials (" " ++ mask) :=
  rfl

theorem masks_header : Masks credentials (" " ++ mask) header :=
  masks_keepHead
    ((reads_word _).cons ((reads_optional _).cons ((reads_many _).cons ((reads_one _).cons
      ((reads_many _).cons ((reads_optional _).cons ((reads_oneOf _).cons .nil)))))))
    ((reads_some_ _).cons ((reads_some_ _).cons .nil)) _

/-- The user name and the password in front of a host. -/
def login : List Char → Recognised :=
  sequence [some_ (isNone "/:@"), one (· == ':'), some_ (isNone "/@"), one (· == '@')]

theorem masks_userInfo : Masks login (mask ++ "@") userInfo :=
  masks_keepHead ((reads_word _).cons ((reads_optional _).cons ((reads_word _).cons .nil)))
    ((reads_some_ _).cons ((reads_one _).cons ((reads_some_ _).cons ((reads_one _).cons .nil)))) _

theorem masks_query : Masks (some_ (isNone "&#")) mask query :=
  masks_keepHead ((reads_one _).cons ((reads_oneOf _).cons ((reads_one _).cons .nil))) (reads_some_ _) _

/-- The value of an assignment: a text in quotes, or what comes before the end of a word. -/
def assigned (cs : List Char) : Recognised :=
  (quotedText cs).orElse fun _ => some_ (isNone ",;)\x7d") cs

theorem masks_assignment : Masks assigned mask assignment :=
  masks_keepHead
    ((reads_optional _).cons ((reads_oneOf _).cons ((reads_optional _).cons ((reads_many _).cons
      ((reads_one _).cons ((reads_many _).cons .nil))))))
    (reads_orElse reads_quotedText (reads_some_ _)) _

/-! ## The rules on two values -/

/-- Behind a separator the rule does not tell two values apart, and its matches take assignments as a
whole; it matches nowhere inside a value. -/
structure Covers (rule : Rule) : Prop where
  /-- The rule stays in front of the values, or covers them. -/
  agrees : ∀ {separator v w rest}, isSeparator separator = true → IsValue v → IsValue w →
    EndsValue rest → ∀ front, Agree (front ++ [separator]) (v ++ rest) (w ++ rest)
      (rule (front ++ [separator] ++ (v ++ rest))) (rule (front ++ [separator] ++ (w ++ rest)))
  /-- A match does not end inside an assignment. -/
  runs : MatchesRuns isAssignmentChar rule

/-- The rule matches neither at a part of a value nor at what follows it. -/
def Passes (rule : Rule) : Prop :=
  ∀ {u rest}, (∀ c ∈ u, c ∈ valueChars) → EndsValue rest → rule (u ++ rest) = none

theorem accepted_of_mem (accepted : ∀ c ∈ assignmentChars, accepts c = true) (c : Char)
    (held : isAssignmentChar c = true) : accepts c = true :=
  accepted c (by simpa [isAssignmentChar] using held)

theorem refused_of_mem {refusing : Char → Bool}
    (refused : ∀ c ∈ assignmentChars, refusing c = false) (c : Char) (held : refusing c = true) :
    isAssignmentChar c = false := by
  by_contra other
  rw [Bool.not_eq_false] at other
  rw [refused c (by simpa [isAssignmentChar] using other)] at held
  contradiction

theorem covers_userInfo : Covers userInfo where
  agrees := by
    intro separator v w rest separates first second _ front
    have http := refuses_separator (fun c => "http".toList.contains (foldChar c)) separates
      (by decide)
    have letter := refuses_separator (fun c => foldChar c == 's') separates (by decide)
    have slashes := fun {v} (value : IsValue v) =>
      value.refuses (fun c => "://".toList.contains (foldChar c)) (by decide) rest
    have colon := fun {v} (value : IsValue v) => value.refuses (· == ':') (by decide) rest
    have ending := fun {v} (value : IsValue v) => value.refuses (· == '@') (by decide) rest
    refine agree_keepHead (inside_sequence_append [_, _] [_] ?_ ?_ front) ?_ _
    · exact (confined_word (http _) (http _)).cons ((confined_optional (letter _) (letter _)).cons .nil)
    · exact (confined_word (slashes first) (slashes second)).cons .nil
    · have password : Blind (v ++ rest) (w ++ rest)
          (sequence [some_ (isNone "/@"), one (· == '@')]) :=
        (first.blind_some_ second (by decide) rest).cons
          ((confined_one (ending first) (ending second)).blind.cons .nil .nil) ((reads_one _).cons .nil)
      have reads_password := (reads_some_ (isNone "/@")).cons ((reads_one (· == '@')).cons .nil)
      exact (first.blind_some_ second (by decide) rest).cons
        ((confined_one (colon first) (colon second)).blind.cons password reads_password)
        ((reads_one _).cons reads_password)
  runs := masks_userInfo.matchesRuns
    (takesRuns_sequence [_, _, _] (takesRuns_one (refused_of_mem (by decide))))

theorem covers_query : Covers query where
  agrees := by
    intro separator v w rest separates first second _ front
    have mark := refuses_separator (fun c => c == '?' || c == '&') separates (by decide)
    have equals := fun {v} (value : IsValue v) => value.refuses (· == '=') (by decide) rest
    refine agree_keepHead (inside_sequence_append [_, _] [_] ?_ ?_ front) ?_ _
    · exact (confined_one (mark _) (mark _)).cons
        ((confined_oneOf (refuses_name separates _) (refuses_name separates _)).cons .nil)
    · exact (confined_one (equals first) (equals second)).cons .nil
    · exact first.blind_some_ second (by decide) rest
  runs := masks_query.matchesRuns (takesRuns_some_ (accepted_of_mem (by decide)))

theorem covers_assignment : Covers assignment where
  agrees := by
    intro separator v w rest separates first second _ front
    have quote := refuses_separator (· == '"') separates (by decide)
    have blank := refuses_separator Text.isBlank separates (by decide)
    have sign := fun {v} (value : IsValue v) => value.refuses isSeparator (by decide) rest
    have gap := fun {v} (value : IsValue v) => value.refuses_blank rest
    refine agree_keepHead
      (inside_sequence_append [_, _, _, _] [_, _] ?_ ?_ front) ?_ _
    · exact (confined_optional (quote _) (quote _)).cons
        ((confined_oneOf (refuses_name separates _) (refuses_name separates _)).cons
          ((confined_optional (quote _) (quote _)).cons ((confined_many (blank _) (blank _)).cons .nil)))
    · exact (confined_one (sign first) (sign second)).cons
        ((confined_many (gap first) (gap second)).cons .nil)
    · exact blind_orElse (blind_quotedText first.1 second.1 first.unquoted second.unquoted rest)
        (first.blind_some_ second (by decide) rest)
  runs := masks_assignment.matchesRuns
    (takesRuns_orElse (takesRuns_quotedText (by decide)) (takesRuns_some_ (accepted_of_mem (by decide))))

/-! A value may hold the scheme of an authorization header, but then no blank and no credentials follow
it. -/

theorem inside_announcement (separates : isSeparator separator = true) (first : IsValue v)
    (second : IsValue w) (rest front : List Char) :
    Inside (front ++ [separator]) (v ++ rest) (w ++ rest)
      (sequence announcement (front ++ [separator] ++ (v ++ rest)))
      (sequence announcement (front ++ [separator] ++ (w ++ rest))) := by
  have name := refuses_separator (fun c => "authorization".toList.contains (foldChar c))
    separates (by decide)
  have quote := refuses_separator isQuote separates (by decide)
  have blank := refuses_separator Text.isBlank separates (by decide)
  have sign := fun {v} (value : IsValue v) => value.refuses isSeparator (by decide) rest
  have gap := fun {v} (value : IsValue v) => value.refuses_blank rest
  have mark := fun {v} (value : IsValue v) => value.refuses isQuote (by decide) rest
  refine inside_sequence_append [_, _, _] [_, _, _] ?_ ?_ front
  · exact (confined_word (name _) (name _)).cons ((confined_optional (quote _) (quote _)).cons
      ((confined_many (blank _) (blank _)).cons .nil))
  · exact (confined_one (sign first) (sign second)).cons ((confined_many (gap first) (gap second)).cons
      ((confined_optional (mark first) (mark second)).cons .nil))

theorem credentials_of_scheme (value : IsValue v) (ends : EndsValue rest) {taken left : List Char}
    (found : oneOf schemes (v ++ rest) = some (taken, left)) : credentials left = none := by
  have letters : ∀ w ∈ schemes, Refuses (fun c => w.toList.contains (foldChar c)) rest := by
    intro w mem
    refine ends.refuses ?_
    revert w
    decide
  cases confined_oneOf letters letters v with
  | missed none_first _ => simp [none_first] at found
  | within taken' left' split some_first _ =>
      rw [some_first] at found
      obtain ⟨rfl, rfl⟩ := Prod.mk.inj (Option.some.inj found)
      have refuses : Refuses Text.isBlank (left' ++ rest) :=
        refuses_left (fun c mem => value.2 c (split ▸ List.mem_append_right _ mem)) ends isBlank_of_mem
      rw [credentials, sequence, some_, takeWhile_of_refuses refuses]
      rfl

theorem covers_header : Covers header where
  agrees := by
    intro separator v w rest separates first second ends front
    have blind : Blind (v ++ rest) (w ++ rest) credentials := by
      have gap := fun {v} (value : IsValue v) => value.refuses_blank rest
      exact (confined_some_ (gap first) (gap second)).blind.cons
        ((first.blind_some_ second (by decide) rest).cons .nil .nil) ((reads_some_ _).cons .nil)
    rw [header_eq]
    cases inside_announcement separates first second rest front with
    | missed none_first none_second =>
        refine agree_keepHead (.missed ?_ ?_) blind _
        · rw [sequence_append, none_first]
          rfl
        · rw [sequence_append, none_second]
          rfl
    | within taken left split some_first some_second =>
        obtain rfl | ⟨left, c, eq⟩ := List.eq_nil_or_concat left
        · -- The values start where the scheme is expected.
          have none_behind {z : List Char} (value : IsValue z)
              (announced : sequence announcement (front ++ [separator] ++ (z ++ rest)) =
                some (taken, [] ++ (z ++ rest))) :
              keepHead (sequence (announcement ++ [oneOf schemes])) credentials (" " ++ mask)
                (front ++ [separator] ++ (z ++ rest)) = none := by
            refine keepHead_of_missed fun kept behind found => ?_
            rw [sequence_append, sequence_singleton, announced, Option.bind_some] at found
            obtain ⟨⟨x, left⟩, read, same⟩ := Option.map_eq_some_iff.mp found
            obtain ⟨-, rfl⟩ := Prod.mk.inj same
            exact credentials_of_scheme value ends read
          exact .missed (none_behind first some_first) (none_behind second some_second)
        · rw [List.concat_eq_append] at eq
          subst eq
          rw [← List.append_assoc] at split
          obtain ⟨-, same⟩ := List.append_inj' split rfl
          obtain rfl := List.singleton_inj.mp same
          have letters : ∀ w ∈ schemes, ∀ cs, Refuses (fun c => w.toList.contains (foldChar c))
              (separator :: cs) := by
            intro w mem
            refine refuses_separator _ separates ?_
            revert w
            decide
          refine agree_keepHead (.append_within (by rw [split, List.append_assoc]) some_first
            some_second ?_) blind _
          rw [List.append_assoc, List.append_assoc]
          exact ((confined_oneOf (fun _ mem => letters _ mem _) fun _ mem => letters _ mem _).cons
            .nil left).shift
  runs := masks_header.matchesRuns
    (takesRuns_sequence [_] (takesRuns_some_ (accepted_of_mem (by decide))))

/-! ## Inside a value -/

theorem keepHead_of_head_missed {head tail : List Char → Recognised} {ending : String}
    {cs : List Char} (missed : head cs = none) : keepHead head tail ending cs = none :=
  keepHead_of_missed fun taken rest found => by simp [missed] at found

theorem passes_header : Passes header := by
  intro u rest held ends
  have letters : Refuses (fun c => "authorization".toList.contains (foldChar c)) rest :=
    ends.refuses (by decide)
  refine keepHead_of_head_missed ?_
  cases confined_word letters letters u with
  | missed none_first _ => exact sequence_of_missed none_first
  | within taken left split some_first _ =>
      have held_left : ∀ c ∈ left, c ∈ valueChars := fun c mem =>
        held c (split ▸ List.mem_append_right _ mem)
      have no_quote : Refuses isQuote (left ++ rest) := refuses_left held_left ends (by decide)
      have no_blank : Refuses Text.isBlank (left ++ rest) :=
        refuses_left held_left ends isBlank_of_mem
      have no_sign : Refuses isSeparator (left ++ rest) := refuses_left held_left ends (by decide)
      refine sequence_of_missed_behind some_first ?_
      refine sequence_of_missed_behind (optional_of_refuses no_quote) ?_
      refine sequence_of_missed_behind (many_of_refuses no_blank) ?_
      exact sequence_of_missed (one_of_refuses no_sign)

theorem passes_userInfo : Passes userInfo := by
  intro u rest held ends
  have http : Refuses (fun c => "http".toList.contains (foldChar c)) rest := ends.refuses (by decide)
  have letter : Refuses (fun c => foldChar c == 's') rest := ends.refuses (by decide)
  refine keepHead_of_head_missed ?_
  cases confined_word http http u with
  | missed none_first _ => exact sequence_of_missed none_first
  | within taken left split some_first _ =>
      refine sequence_of_missed_behind some_first ?_
      cases confined_optional letter letter left with
      | missed none_first _ => exact sequence_of_missed none_first
      | within taken' left' split' some_first _ =>
          have no_slash : Refuses (fun c => foldChar c == ':') (left' ++ rest) := by
            refine refuses_left (fun c mem => held c ?_) ends (by decide)
            rw [split, split']
            exact List.mem_append_right _ (List.mem_append_right _ mem)
          exact sequence_of_missed_behind some_first (sequence_of_missed (word_of_refuses no_slash _))

theorem passes_query : Passes query := by
  intro u rest held ends
  have no_mark : Refuses (fun c => c == '?' || c == '&') (u ++ rest) :=
    refuses_left held ends (by decide)
  exact keepHead_of_head_missed (sequence_of_missed (one_of_refuses no_mark))

/-! ## Without separators -/

theorem needs_header : Needs isSeparator header := fun _ absent =>
  keepHead_of_head_missed (sequence_of_absent [_, _, _]
    ((reads_word _).cons ((reads_optional _).cons ((reads_many _).cons .nil))) absent)

theorem needs_userInfo : Needs isSeparator userInfo := by
  intro cs absent
  refine keepHead_of_missed fun taken rest found => ?_
  have split := ((reads_word _).cons ((reads_optional _).cons ((reads_word _).cons .nil))) _ _ _ found
  refine sequence_of_absent [_] ((reads_some_ _).cons .nil) fun c mem => ?_
  have no_separator := absent c (split ▸ List.mem_append_right _ mem)
  exact (Bool.or_eq_false_iff.mp no_separator).1

theorem needs_query : Needs isSeparator query := fun _ absent =>
  keepHead_of_head_missed (sequence_of_absent [_, _]
    ((reads_one _).cons ((reads_oneOf _).cons .nil))
    fun c mem => (Bool.or_eq_false_iff.mp (absent c mem)).2)

theorem needs_query_mark : Needs (fun c => c == '?' || c == '&') query := fun _ absent =>
  keepHead_of_head_missed (sequence_of_absent [] .nil absent)

theorem needs_assignment : Needs isSeparator assignment := fun _ absent =>
  keepHead_of_head_missed (sequence_of_absent [_, _, _, _]
    ((reads_optional _).cons ((reads_oneOf _).cons ((reads_optional _).cons ((reads_many _).cons .nil))))
    absent)

end Reconciler.Redaction
