import Reconciler.Text.Class

/-!
# Replaced words

What replacing a word does from left to right: text in which the word cannot begin stays, and each place at
which the word stands takes the replacement, whatever follows it.  The letters may be renamed, as long as
different ones stay different.
-/

namespace Reconciler.Text

section

variable {α : Type} {word replacement front rest : List α} {c : α}

theorem length_drop_le (nonempty : word ≠ []) :
    ((c :: rest).drop word.length).length ≤ rest.length := by
  have taken : 0 < word.length := List.length_pos_iff.mpr nonempty
  rw [List.length_drop, List.length_cons]
  omega

variable [BEq α]

/-- A bound that is no less than the length of the text changes nothing. -/
theorem replaceChars_go (nonempty : word ≠ []) {text : List α} {first second : Nat}
    (first_long : text.length ≤ first) (second_long : text.length ≤ second) :
    replaceChars.go word replacement text first = replaceChars.go word replacement text second := by
  have not_empty : word.isEmpty = false := by simpa using nonempty
  induction first generalizing text second with
  | zero =>
      obtain rfl := List.eq_nil_of_length_eq_zero (Nat.le_zero.mp first_long)
      simp [replaceChars.go]
  | succ first ih =>
      cases text with
      | nil => simp [replaceChars.go]
      | cons c rest =>
          obtain ⟨second, rfl⟩ := Nat.exists_eq_add_one.mpr (Nat.zero_lt_of_lt second_long)
          rw [List.length_cons] at first_long second_long
          have shorter : ((c :: rest).drop word.length).length ≤ rest.length :=
            length_drop_le nonempty
          simp only [replaceChars.go, not_empty]
          rw [ih (by omega) (by omega : rest.length ≤ second),
            ih (by omega) (by omega : ((c :: rest).drop word.length).length ≤ second)]

theorem replaceChars_cons (nonempty : word ≠ []) :
    replaceChars word replacement (c :: rest) =
      if word.isPrefixOf (c :: rest) then
        replacement ++ replaceChars word replacement ((c :: rest).drop word.length)
      else c :: replaceChars word replacement rest := by
  have not_empty : word.isEmpty = false := by simpa using nonempty
  rw [replaceChars, List.length_cons, replaceChars.go, not_empty,
    replaceChars_go nonempty (length_drop_le nonempty) (Nat.le_refl _)]
  rfl

theorem replaceChars_cons_of_missed (missed : word.isPrefixOf (c :: rest) = false) :
    replaceChars word replacement (c :: rest) = c :: replaceChars word replacement rest := by
  have nonempty : word ≠ [] := by
    rintro rfl
    simp at missed
  rw [replaceChars_cons nonempty, missed]
  rfl

variable [LawfulBEq α]

/-- A word gives way to its replacement where it stands. -/
theorem replaceChars_word (nonempty : word ≠ []) :
    replaceChars word replacement (word ++ rest) =
      replacement ++ replaceChars word replacement rest := by
  obtain ⟨c, tail, rfl⟩ := List.exists_cons_of_ne_nil nonempty
  have stands : (c :: tail).isPrefixOf (c :: tail ++ rest) = true :=
    List.isPrefixOf_iff_prefix.mpr (List.prefix_append _ _)
  rw [List.cons_append] at stands ⊢
  rw [replaceChars_cons nonempty, if_pos stands, ← List.cons_append, List.drop_left]

/-- Text without the first character of the word stays. -/
theorem replaceChars_append {tail : List α} (absent : c ∉ front) :
    replaceChars (c :: tail) replacement (front ++ rest) =
      front ++ replaceChars (c :: tail) replacement rest := by
  induction front with
  | nil => rfl
  | cons d front ih =>
      rw [List.mem_cons, not_or] at absent
      obtain ⟨apart, absent⟩ := absent
      have missed : (c :: tail).isPrefixOf (d :: (front ++ rest)) = false := by
        simp [List.isPrefixOf, apart]
      rw [List.cons_append, replaceChars_cons_of_missed missed, ih absent, List.cons_append]

end

/-! ## Renamed letters -/

section

variable {α β : Type} [BEq α] [LawfulBEq α] [BEq β] [LawfulBEq β] {f : α → β}

theorem isPrefixOf_map (injective : f.Injective) (word text : List α) :
    (word.map f).isPrefixOf (text.map f) = word.isPrefixOf text := by
  induction word generalizing text with
  | nil => rfl
  | cons c word ih =>
      cases text with
      | nil => rfl
      | cons d text =>
          have heads : (f c == f d) = (c == d) := by
            rw [Bool.eq_iff_iff, beq_iff_eq, beq_iff_eq, injective.eq_iff]
          rw [List.map_cons, List.map_cons, List.isPrefixOf_cons_cons, List.isPrefixOf_cons_cons, heads, ih]

/-- A replacement of renamed words in a renamed text is the renamed replacement. -/
theorem replaceChars_map (injective : f.Injective) {word : List α} (nonempty : word ≠ [])
    (replacement text : List α) :
    replaceChars (word.map f) (replacement.map f) (text.map f) =
      (replaceChars word replacement text).map f := by
  have renamed_nonempty : word.map f ≠ [] := by simpa using nonempty
  induction length : text.length using Nat.strongRecOn generalizing text with
  | ind n ih =>
      cases text with
      | nil => rfl
      | cons c rest =>
          rw [List.map_cons, replaceChars_cons renamed_nonempty, replaceChars_cons nonempty,
            ← List.map_cons, isPrefixOf_map injective, List.length_map, ← List.map_drop]
          have shorter : ((c :: rest).drop word.length).length ≤ rest.length :=
            length_drop_le nonempty
          rw [List.length_cons] at length
          split
          next => rw [ih _ (by omega) _ rfl, List.map_append]
          next => rw [ih _ (by omega) rest rfl, List.map_cons]

end

end Reconciler.Text
