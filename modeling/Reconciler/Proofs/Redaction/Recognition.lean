import Mathlib.Data.List.TakeWhile
import Reconciler.Redaction

/-!
# Recognisers on two texts

A recogniser reads a text from its start and looks no further than it has to.  On two texts with one
front it reads the same as long as it stays inside the front; and where it also takes in all that the
texts have of their own, it stops in front of the same rest in both.
-/

namespace Reconciler.Redaction

/-- What holds of the characters of a list is decided along the list, not along all characters. -/
scoped instance (priority := high) decidableForallChar {p : Char → Prop} [DecidablePred p]
    (cs : List Char) : Decidable (∀ c ∈ cs, p c) :=
  List.decidableBAll p cs

variable {a b front : List Char} {accepts inner : Char → Bool} {part : List Char → Recognised}
  {parts others : List (List Char → Recognised)}

/-- The text does not start with a character of the class. -/
def Refuses (accepts : Char → Bool) (cs : List Char) : Prop :=
  ∀ c ∈ cs.head?, accepts c = false

@[simp]
theorem refuses_nil (accepts : Char → Bool) : Refuses accepts [] := by
  simp [Refuses]

@[simp]
theorem refuses_cons_iff (accepts : Char → Bool) (c : Char) (cs : List Char) :
    Refuses accepts (c :: cs) ↔ accepts c = false := by
  simp [Refuses]

theorem takeWhile_of_refuses (refuses : Refuses accepts a) : a.takeWhile accepts = [] := by
  cases a with
  | nil => rfl
  | cons c cs => simp [(refuses_cons_iff ..).mp refuses]

theorem dropWhile_of_refuses (refuses : Refuses accepts a) : a.dropWhile accepts = a := by
  cases a with
  | nil => rfl
  | cons c cs => simp [(refuses_cons_iff ..).mp refuses]

theorem refuses_dropWhile (accepts : Char → Bool) (cs : List Char) :
    Refuses accepts (cs.dropWhile accepts) := by
  induction cs with
  | nil => exact refuses_nil accepts
  | cons c cs ih =>
      rw [List.dropWhile_cons]
      split
      · exact ih
      next refused => simpa using refused

/-- A class that refuses a text lets a front of it stop by itself, or ends with the front. -/
theorem takeWhile_append_of_refuses (refuses : Refuses accepts a) (front : List Char) :
    (front ++ a).takeWhile accepts = front.takeWhile accepts ∧
      (front ++ a).dropWhile accepts = front.dropWhile accepts ++ a := by
  induction front with
  | nil => simp [takeWhile_of_refuses refuses, dropWhile_of_refuses refuses]
  | cons c front ih =>
      rw [List.cons_append, List.takeWhile_cons, List.dropWhile_cons, List.takeWhile_cons,
        List.dropWhile_cons]
      split
      · rw [ih.1, ih.2]
        exact ⟨rfl, rfl⟩
      · exact ⟨rfl, rfl⟩

theorem one_of_refuses (refuses : Refuses accepts a) : one accepts a = none := by
  cases a with
  | nil => rfl
  | cons c cs => rw [one, (refuses_cons_iff ..).mp refuses]; rfl

theorem optional_of_refuses (refuses : Refuses accepts a) : optional accepts a = some ([], a) := by
  rw [optional, one_of_refuses refuses, Option.getD_none]

theorem many_of_refuses (refuses : Refuses accepts a) : many accepts a = some ([], a) := by
  rw [many, takeWhile_of_refuses refuses, dropWhile_of_refuses refuses]

theorem word_of_refuses {x : Char} (refuses : Refuses (fun c => foldChar c == x) a) (w : List Char) :
    word (x :: w) a = none := by
  cases a with
  | nil => rfl
  | cons c cs => rw [word, (refuses_cons_iff ..).mp refuses]; rfl

theorem sequence_of_missed {cs : List Char} (missed : part cs = none) :
    sequence (part :: parts) cs = none := by
  rw [sequence, missed]
  rfl

theorem sequence_of_missed_behind {cs taken left : List Char} (found : part cs = some (taken, left))
    (missed : sequence parts left = none) : sequence (part :: parts) cs = none := by
  rw [sequence, found]
  simp [missed]

theorem sequence_of_found {cs taken left taken' left' : List Char} (found : part cs = some (taken, left))
    (found_behind : sequence parts left = some (taken', left')) :
    sequence (part :: parts) cs = some (taken ++ taken', left') := by
  rw [sequence, found]
  simp [found_behind]

/-! ## Inside the front -/

/-- The outcomes on the two texts that follow a front: nothing is recognised in either of them, or the
same part of the front in both. -/
inductive Inside (front a b : List Char) (first second : Recognised) : Prop where
  /-- Nothing is recognised. -/
  | missed (none_first : first = none) (none_second : second = none)
  /-- A part of the front is. -/
  | within (taken left : List Char) (split : front = taken ++ left)
      (some_first : first = some (taken, left ++ a)) (some_second : second = some (taken, left ++ b))

/-- The recogniser reads nothing of two texts, whatever stands in front of them. -/
def Confined (a b : List Char) (part : List Char → Recognised) : Prop :=
  ∀ front, Inside front a b (part (front ++ a)) (part (front ++ b))

theorem confined_one (first : Refuses accepts a) (second : Refuses accepts b) :
    Confined a b (one accepts) := by
  intro front
  cases front with
  | nil => exact .missed (one_of_refuses first) (one_of_refuses second)
  | cons c front =>
      rw [List.cons_append, List.cons_append, one, one]
      split
      · exact .within [c] front rfl rfl rfl
      · exact .missed rfl rfl

theorem confined_optional (first : Refuses accepts a) (second : Refuses accepts b) :
    Confined a b (optional accepts) := by
  intro front
  unfold optional
  cases confined_one first second front with
  | missed none_first none_second =>
      rw [none_first, none_second]
      exact .within [] front rfl rfl rfl
  | within taken left split some_first some_second =>
      rw [some_first, some_second]
      exact .within taken left split rfl rfl

theorem confined_many (first : Refuses accepts a) (second : Refuses accepts b) :
    Confined a b (many accepts) := by
  intro front
  obtain ⟨taken, left⟩ := takeWhile_append_of_refuses first front
  obtain ⟨taken', left'⟩ := takeWhile_append_of_refuses second front
  rw [many, many, taken, left, taken', left']
  exact .within _ _ List.takeWhile_append_dropWhile.symm rfl rfl

theorem confined_some_ (first : Refuses accepts a) (second : Refuses accepts b) :
    Confined a b (some_ accepts) := by
  intro front
  rw [some_, some_, (takeWhile_append_of_refuses first front).1,
    (takeWhile_append_of_refuses second front).1]
  split
  · exact .missed rfl rfl
  · exact confined_many first second front

/-- A word is read no further than to a character that it does not hold. -/
theorem confined_word {w : List Char} (first : Refuses (fun c => w.contains (foldChar c)) a)
    (second : Refuses (fun c => w.contains (foldChar c)) b) : Confined a b (word w) := by
  induction w with
  | nil => exact fun front => .within [] front rfl rfl rfl
  | cons x w ih =>
      have other {cs : List Char} (refuses : Refuses (fun c => (x :: w).contains (foldChar c)) cs) :
          word (x :: w) cs = none ∧ Refuses (fun c => w.contains (foldChar c)) cs := by
        cases cs with
        | nil => exact ⟨rfl, refuses_nil _⟩
        | cons c cs =>
            rw [refuses_cons_iff, List.contains_cons, Bool.or_eq_false_iff] at refuses
            exact ⟨word_of_refuses (by simpa using refuses.1) w, (refuses_cons_iff ..).mpr refuses.2⟩
      intro front
      cases front with
      | nil => exact .missed (other first).1 (other second).1
      | cons c front =>
          rw [List.cons_append, List.cons_append, word, word]
          split
          · cases ih (other first).2 (other second).2 front with
            | missed none_first none_second =>
                rw [none_first, none_second]
                exact .missed rfl rfl
            | within taken left split some_first some_second =>
                rw [some_first, some_second, split]
                exact .within (c :: taken) left rfl rfl rfl
          · exact .missed rfl rfl

theorem confined_oneOf {words : List String}
    (first : ∀ w ∈ words, Refuses (fun c => w.toList.contains (foldChar c)) a)
    (second : ∀ w ∈ words, Refuses (fun c => w.toList.contains (foldChar c)) b) :
    Confined a b (oneOf words) := by
  intro front
  unfold oneOf
  induction words with
  | nil => exact .missed rfl rfl
  | cons w words ih =>
      rw [List.forall_mem_cons] at first second
      rw [List.findSome?_cons, List.findSome?_cons]
      cases confined_word first.1 second.1 front with
      | missed none_first none_second =>
          rw [none_first, none_second]
          exact ih first.2 second.2
      | within taken left split some_first some_second =>
          rw [some_first, some_second]
          exact .within taken left split rfl rfl

theorem Confined.nil : Confined a b (sequence []) :=
  fun front => .within [] front rfl rfl rfl

theorem Confined.cons (first : Confined a b part) (others : Confined a b (sequence parts)) :
    Confined a b (sequence (part :: parts)) := by
  intro front
  rw [sequence, sequence]
  cases first front with
  | missed none_first none_second =>
      rw [none_first, none_second]
      exact .missed rfl rfl
  | within taken left split some_first some_second =>
      rw [some_first, some_second]
      cases others left with
      | missed none_first none_second =>
          exact .missed (by simp [none_first]) (by simp [none_second])
      | within taken' left' split' some_first some_second =>
          refine .within (taken ++ taken') left' ?_ (by simp [some_first]) (by simp [some_second])
          rw [split, split', List.append_assoc]

theorem sequence_singleton (part : List Char → Recognised) : sequence [part] = part := by
  funext cs
  rw [sequence]
  cases part cs with
  | none => rfl
  | some outcome => simp [sequence]

theorem sequence_append (parts others : List (List Char → Recognised)) (cs : List Char) :
    sequence (parts ++ others) cs = (sequence parts cs).bind fun outcome =>
      (sequence others outcome.2).map fun last => (outcome.1 ++ last.1, last.2) := by
  induction parts generalizing cs with
  | nil => simp [sequence]
  | cons part parts ih =>
      rw [List.cons_append, sequence, sequence]
      cases part cs with
      | none => rfl
      | some outcome =>
          simp only [Option.bind_eq_bind, Option.bind_some, ih]
          cases sequence parts outcome.2 with
          | none => rfl
          | some second => cases others_eq : sequence others second.2 <;> simp [others_eq]

/-- The character behind a front counts to the front, where it is not read. -/
theorem Inside.shift {c : Char} {first second : Recognised}
    (inside : Inside front (c :: a) (c :: b) first second) :
    Inside (front ++ [c]) a b first second := by
  cases inside with
  | missed none_first none_second => exact .missed none_first none_second
  | within taken left split some_first some_second =>
      refine .within taken (left ++ [c]) ?_ ?_ ?_
      · rw [split, List.append_assoc]
      · rw [some_first, List.append_assoc, List.singleton_append]
      · rw [some_second, List.append_assoc, List.singleton_append]

theorem Inside.append_within {cs ds taken left : List Char} (split : front = taken ++ left)
    (some_first : sequence parts cs = some (taken, left ++ a))
    (some_second : sequence parts ds = some (taken, left ++ b))
    (next : Inside left a b (sequence others (left ++ a)) (sequence others (left ++ b))) :
    Inside front a b (sequence (parts ++ others) cs) (sequence (parts ++ others) ds) := by
  rw [sequence_append, sequence_append, some_first, some_second, Option.bind_some, Option.bind_some]
  cases next with
  | missed none_first none_second =>
      exact .missed (by rw [none_first]; rfl) (by rw [none_second]; rfl)
  | within taken' left' split' some_first some_second =>
      refine .within (taken ++ taken') left' ?_ (by rw [some_first]; rfl) (by rw [some_second]; rfl)
      rw [split, split', List.append_assoc]

/-- Parts that stay in front of a character are followed by parts that may read it, and no further. -/
theorem inside_sequence_append (parts others : List (List Char → Recognised)) {c : Char}
    (before : Confined (c :: a) (c :: b) (sequence parts))
    (after : Confined a b (sequence others)) (front : List Char) :
    Inside (front ++ [c]) a b (sequence (parts ++ others) (front ++ [c] ++ a))
      (sequence (parts ++ others) (front ++ [c] ++ b)) := by
  rw [List.append_assoc, List.append_assoc, List.singleton_append, List.singleton_append]
  cases (before front).shift with
  | missed none_first none_second =>
      rw [sequence_append, sequence_append, none_first, none_second]
      exact .missed rfl rfl
  | within taken left split some_first some_second =>
      exact .append_within split some_first some_second (after left)

/-! ## Beyond the front -/

/-- The outcomes on two texts that follow a front: inside the front, or the front is taken with all that
the texts have in front of one rest. -/
inductive Alongside (front a b : List Char) (first second : Recognised) : Prop where
  /-- The outcomes stay inside the front. -/
  | inside (inside : Inside front a b first second)
  /-- The front is taken, and what the texts have of their own. -/
  | beyond (x y rest : List Char) (split_first : a = x ++ rest) (split_second : b = y ++ rest)
      (some_first : first = some (front ++ x, rest)) (some_second : second = some (front ++ y, rest))

/-- The recogniser does not tell two texts apart, whatever stands in front of them. -/
def Blind (a b : List Char) (part : List Char → Recognised) : Prop :=
  ∀ front, Alongside front a b (part (front ++ a)) (part (front ++ b))

theorem Confined.blind (confined : Confined a b part) : Blind a b part :=
  fun front => .inside (confined front)

/-- The recogniser takes from the start of a text, and leaves the rest as it is. -/
def Reads (part : List Char → Recognised) : Prop :=
  ∀ cs taken rest, part cs = some (taken, rest) → cs = taken ++ rest

theorem reads_one (accepts : Char → Bool) : Reads (one accepts) := by
  intro cs taken rest found
  cases cs with
  | nil => simp [one] at found
  | cons c cs =>
      rw [one] at found
      split at found
      · obtain ⟨rfl, rfl⟩ := Prod.mk.inj (Option.some.inj found)
        rfl
      · contradiction

theorem reads_many (accepts : Char → Bool) : Reads (many accepts) := by
  intro cs taken rest found
  obtain ⟨rfl, rfl⟩ := Prod.mk.inj (Option.some.inj found)
  exact List.takeWhile_append_dropWhile.symm

theorem reads_some_ (accepts : Char → Bool) : Reads (some_ accepts) := by
  intro cs taken rest found
  rw [some_] at found
  split at found
  · contradiction
  · exact reads_many accepts cs taken rest found

theorem reads_optional (accepts : Char → Bool) : Reads (optional accepts) := by
  intro cs taken rest found
  rw [optional] at found
  cases outcome : one accepts cs with
  | none =>
      rw [outcome] at found
      obtain ⟨rfl, rfl⟩ := Prod.mk.inj (Option.some.inj found)
      rfl
  | some outcome' =>
      rw [outcome] at found
      exact reads_one accepts cs taken rest (outcome.trans found)

theorem reads_word (w : List Char) : Reads (word w) := by
  induction w with
  | nil =>
      intro cs taken rest found
      obtain ⟨rfl, rfl⟩ := Prod.mk.inj (Option.some.inj found)
      rfl
  | cons x w ih =>
      intro cs taken rest found
      cases cs with
      | nil => simp [word] at found
      | cons c cs =>
          rw [word] at found
          split at found
          · obtain ⟨⟨y, left⟩, read, same⟩ := Option.map_eq_some_iff.mp found
            obtain ⟨rfl, rfl⟩ := Prod.mk.inj same
            rw [ih _ _ _ read, List.cons_append]
          · contradiction

theorem reads_oneOf (words : List String) : Reads (oneOf words) := by
  intro cs taken rest found
  obtain ⟨w, -, found⟩ := List.exists_of_findSome?_eq_some found
  exact reads_word w.toList cs taken rest found

theorem reads_orElse {other : List Char → Recognised} (reads : Reads part) (reads_other : Reads other) :
    Reads fun cs => (part cs).orElse fun _ => other cs := by
  intro cs taken rest found
  cases outcome : part cs with
  | none => exact reads_other cs taken rest (by simpa [outcome] using found)
  | some outcome' => exact reads cs taken rest (by simpa [outcome] using found)

theorem Reads.nil : Reads (sequence []) := by
  intro cs taken rest found
  obtain ⟨rfl, rfl⟩ := Prod.mk.inj (Option.some.inj found)
  rfl

theorem Reads.cons (first : Reads part) (others : Reads (sequence parts)) :
    Reads (sequence (part :: parts)) := by
  intro cs taken rest found
  rw [sequence] at found
  obtain ⟨⟨x, left⟩, read, found⟩ := Option.bind_eq_some_iff.mp found
  obtain ⟨⟨y, left'⟩, read', found⟩ := Option.bind_eq_some_iff.mp found
  obtain ⟨rfl, rfl⟩ := Prod.mk.inj (Option.some.inj found)
  rw [first _ _ _ read, others _ _ _ read', List.append_assoc]

/-! ## What is recognised -/

theorem taken_of_some_ {cs taken rest : List Char} (found : some_ accepts cs = some (taken, rest)) :
    taken ≠ [] ∧ ∀ c ∈ taken, accepts c = true := by
  rw [some_] at found
  split at found
  · contradiction
  next nonempty =>
    obtain ⟨rfl, -⟩ := Prod.mk.inj (Option.some.inj found)
    exact ⟨by simpa using nonempty, fun c mem => List.mem_takeWhile_imp mem⟩

/-- A sequence that ends with one character of a class takes that character last. -/
theorem last_of_sequence (parts : List (List Char → Recognised)) {cs taken rest : List Char}
    (found : sequence (parts ++ [one accepts]) cs = some (taken, rest)) :
    ∃ before c, taken = before ++ [c] ∧ accepts c = true := by
  rw [sequence_append, sequence_singleton] at found
  obtain ⟨⟨before, left⟩, -, found⟩ := Option.bind_eq_some_iff.mp found
  obtain ⟨⟨last, left'⟩, read, same⟩ := Option.map_eq_some_iff.mp found
  obtain ⟨rfl, -⟩ := Prod.mk.inj same
  cases left with
  | nil => simp [one] at read
  | cons c left =>
      rw [one] at read
      split at read
      next accepted =>
        obtain ⟨rfl, -⟩ := Prod.mk.inj (Option.some.inj read)
        exact ⟨before, c, rfl, accepted⟩
      · contradiction

/-- A sequence with one character of a class fails on a text without characters of the class. -/
theorem sequence_of_absent (before : List (List Char → Recognised))
    {after : List (List Char → Recognised)} {cs : List Char}
    (reads : Reads (sequence before)) (absent : ∀ c ∈ cs, accepts c = false) :
    sequence (before ++ one accepts :: after) cs = none := by
  rw [sequence_append, Option.bind_eq_none_iff]
  intro outcome found
  have split := reads _ _ _ found
  have refuses : Refuses accepts outcome.2 := fun c start =>
    absent c (split ▸ List.mem_append_right _ (List.mem_of_mem_head? start))
  rw [sequence_of_missed (one_of_refuses refuses), Option.map_none]

/-! ## Classes and alternatives on two texts -/

/-- A class that takes in what two texts have of their own, in front of one rest, does not tell them
apart. -/
theorem blind_some_ {x y rest : List Char} (x_ne : x ≠ []) (y_ne : y ≠ [])
    (first : ∀ c ∈ x, accepts c = true) (second : ∀ c ∈ y, accepts c = true) :
    Blind (x ++ rest) (y ++ rest) (some_ accepts) := by
  have through {z : List Char} (accepted : ∀ c ∈ z, accepts c = true) (cs : List Char) :
      (z ++ cs).takeWhile accepts = z ++ cs.takeWhile accepts ∧
        (z ++ cs).dropWhile accepts = cs.dropWhile accepts :=
    ⟨List.takeWhile_append_of_pos accepted, List.dropWhile_append_of_pos accepted⟩
  intro front
  by_cases all : ∀ c ∈ front, accepts c = true
  · have outcome {z : List Char} (z_ne : z ≠ []) (accepted : ∀ c ∈ z, accepts c = true) :
        some_ accepts (front ++ (z ++ rest)) =
          some (front ++ (z ++ rest.takeWhile accepts), rest.dropWhile accepts) := by
      rw [some_, many, (through all _).1, (through accepted _).1, (through all _).2,
        (through accepted _).2, if_neg]
      simp [z_ne]
    refine .beyond _ _ (rest.dropWhile accepts) ?_ ?_ (outcome x_ne first) (outcome y_ne second)
    · rw [List.append_assoc, List.takeWhile_append_dropWhile]
    · rw [List.append_assoc, List.takeWhile_append_dropWhile]
  · -- The class stops at a character of the front, which is then the start of what it refuses.
    have stop : ∃ stopped left, front = stopped ++ left ∧ left ≠ [] ∧ Refuses accepts left := by
      refine ⟨front.takeWhile accepts, front.dropWhile accepts,
        List.takeWhile_append_dropWhile.symm, fun none => all ?_, refuses_dropWhile accepts front⟩
      simpa using List.dropWhile_eq_nil_iff.mp none
    obtain ⟨stopped, left, rfl, left_ne, refuses⟩ := stop
    obtain ⟨c, left, rfl⟩ := List.exists_cons_of_ne_nil left_ne
    have refused : accepts c = false := (refuses_cons_iff ..).mp refuses
    have inside := confined_some_ (a := c :: (left ++ (x ++ rest))) (b := c :: (left ++ (y ++ rest)))
      ((refuses_cons_iff ..).mpr refused) ((refuses_cons_iff ..).mpr refused) stopped
    rw [List.append_assoc, List.append_assoc, List.cons_append, List.cons_append]
    cases inside with
    | missed none_first none_second => exact .inside (.missed none_first none_second)
    | within taken left' split some_first some_second =>
        refine .inside (.within taken (left' ++ c :: left) ?_ ?_ ?_)
        · rw [split, List.append_assoc]
        · rw [some_first, List.append_assoc, List.cons_append]
        · rw [some_second, List.append_assoc, List.cons_append]

theorem blind_orElse {other : List Char → Recognised} (blind : Blind a b part)
    (blind_other : Blind a b other) : Blind a b fun cs => (part cs).orElse fun _ => other cs := by
  intro front
  dsimp only
  cases blind front with
  | inside inside =>
      cases inside with
      | missed none_first none_second =>
          rw [none_first, none_second]
          exact blind_other front
      | within taken left split some_first some_second =>
          rw [some_first, some_second]
          exact .inside (.within taken left split rfl rfl)
  | beyond x y rest split_first split_second some_first some_second =>
      rw [some_first, some_second]
      exact .beyond x y rest split_first split_second rfl rfl

theorem Blind.nil : Blind a b (sequence []) :=
  Confined.nil.blind

theorem Blind.cons (first : Blind a b part) (others : Blind a b (sequence parts))
    (reads : Reads (sequence parts)) : Blind a b (sequence (part :: parts)) := by
  intro front
  rw [sequence, sequence]
  cases first front with
  | inside inside =>
      cases inside with
      | missed none_first none_second =>
          rw [none_first, none_second]
          exact .inside (.missed rfl rfl)
      | within taken left split some_first some_second =>
          rw [some_first, some_second]
          cases others left with
          | inside inside =>
              cases inside with
              | missed none_first none_second =>
                  exact .inside (.missed (by simp [none_first]) (by simp [none_second]))
              | within taken' left' split' some_first some_second =>
                  refine .inside (.within (taken ++ taken') left' ?_ (by simp [some_first])
                    (by simp [some_second]))
                  rw [split, split', List.append_assoc]
          | beyond x y rest split_first split_second some_first some_second =>
              exact .beyond x y rest split_first split_second (by simp [some_first, split])
                (by simp [some_second, split])
  | beyond x y rest split_first split_second some_first some_second =>
      rw [some_first, some_second]
      cases last : sequence parts rest with
      | none => exact .inside (.missed (by simp [last]) (by simp [last]))
      | some outcome =>
          obtain ⟨z, rest'⟩ := outcome
          have read := reads _ _ _ last
          refine .beyond (x ++ z) (y ++ z) rest' ?_ ?_ (by simp [last]) (by simp [last])
          · rw [split_first, read, List.append_assoc]
          · rw [split_second, read, List.append_assoc]

/-! ## Quotes -/

theorem quotedText_of_unquoted {cs : List Char} (refuses : Refuses (· == '"') cs) :
    quotedText cs = none := by
  cases cs with
  | nil => rfl
  | cons c cs =>
      unfold quotedText
      split
      next same => simp [(List.cons.inj same).1] at refuses
      · rfl

theorem quotedText_of_closed {cs : List Char} (unquoted : '"' ∉ cs) (rest : List Char) :
    quotedText ('"' :: (cs ++ '"' :: rest)) = some ('"' :: cs ++ ['"'], rest) := by
  have passed : ∀ c ∈ cs, (c != '"') = true := fun c mem => by
    simpa using fun same : c = '"' => unquoted (same ▸ mem)
  rw [quotedText, List.takeWhile_append_of_pos passed, List.dropWhile_append_of_pos passed]
  simp

theorem quotedText_of_open {cs : List Char} (unquoted : '"' ∉ cs) : quotedText ('"' :: cs) = none := by
  have passed : cs.dropWhile (· != '"') = [] := by
    rw [List.dropWhile_eq_nil_iff]
    exact fun c mem => by simpa using fun same : c = '"' => unquoted (same ▸ mem)
  rw [quotedText, passed]

theorem reads_quotedText : Reads quotedText := by
  intro cs taken rest found
  unfold quotedText at found
  split at found
  next cs =>
    split at found
    next q left stopped =>
      obtain ⟨rfl, rfl⟩ := Prod.mk.inj (Option.some.inj found)
      rw [List.append_assoc, List.singleton_append, ← stopped, List.cons_append,
        List.takeWhile_append_dropWhile]
    · contradiction
  · contradiction

/-- A quoted text that goes beyond the front holds all that two texts without quotes have of their
own. -/
theorem blind_quotedText {x y : List Char} (x_ne : x ≠ []) (y_ne : y ≠ []) (first : '"' ∉ x)
    (second : '"' ∉ y) (rest : List Char) : Blind (x ++ rest) (y ++ rest) quotedText := by
  have refuses {z : List Char} (z_ne : z ≠ []) (unquoted : '"' ∉ z) (cs : List Char) :
      Refuses (· == '"') (z ++ cs) := by
    obtain ⟨c, z, rfl⟩ := List.exists_cons_of_ne_nil z_ne
    rw [List.cons_append, refuses_cons_iff, beq_eq_false_iff_ne]
    exact fun same => unquoted (same ▸ List.mem_cons_self)
  intro front
  cases front with
  | nil =>
      exact .inside (.missed (quotedText_of_unquoted (refuses x_ne first rest))
        (quotedText_of_unquoted (refuses y_ne second rest)))
  | cons c front =>
      by_cases quote : c = '"'
      · subst quote
        by_cases closed : '"' ∈ front
        · obtain ⟨before, after, rfl, unquoted⟩ := List.eq_append_cons_of_mem closed
          refine .inside (.within ('"' :: before ++ ['"']) after (by simp) ?_ ?_)
          · simpa using quotedText_of_closed unquoted (after ++ (x ++ rest))
          · simpa using quotedText_of_closed unquoted (after ++ (y ++ rest))
        · by_cases closed_after : '"' ∈ rest
          · obtain ⟨before, after, rfl, unquoted⟩ := List.eq_append_cons_of_mem closed_after
            have outcome {z : List Char} (unquoted_own : '"' ∉ z) :
                quotedText ('"' :: front ++ (z ++ (before ++ '"' :: after))) =
                  some ('"' :: front ++ (z ++ (before ++ ['"'])), after) := by
              have none : '"' ∉ front ++ (z ++ before) := by simp [closed, unquoted_own, unquoted]
              simpa using quotedText_of_closed none after
            exact .beyond (x ++ (before ++ ['"'])) (y ++ (before ++ ['"'])) after (by simp) (by simp)
              (outcome first) (outcome second)
          · refine .inside (.missed (quotedText_of_open ?_) (quotedText_of_open ?_))
            · simp [closed, first, closed_after]
            · simp [closed, second, closed_after]
      · have other : ∀ cs, Refuses (· == '"') (c :: cs) := fun cs => by simpa using quote
        exact .inside (.missed (quotedText_of_unquoted (other _)) (quotedText_of_unquoted (other _)))

end Reconciler.Redaction
