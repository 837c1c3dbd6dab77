import Reconciler.Text.Points

/-!
# Texts with a UTF-8 form

A text has a UTF-8 form exactly when no surrogate stands in it, and then it is the text of a string.
-/

namespace Reconciler.Text.Points

variable {text : Points}

/-- No surrogate stands in the text. -/
def HasUtf8 (text : Points) : Prop :=
  ∀ number, .surrogate number ∉ text

theorem ofString_injective {first second : String} (same : ofString first = ofString second) :
    first = second :=
  String.toList_injective ((List.map_inj_right fun _ _ => Point.char.inj).mp same)

theorem ofString_append (first second : String) :
    ofString (first ++ second) = ofString first ++ ofString second := by
  simp [ofString]

theorem char_mem_ofString_iff {c : Char} {s : String} : .char c ∈ ofString s ↔ c ∈ s.toList := by
  simp [ofString]

theorem hasUtf8_map_char (cs : List Char) : HasUtf8 (cs.map .char) := fun number held => by
  obtain ⟨c, -, same⟩ := List.mem_map.mp held
  contradiction

theorem hasUtf8_ofString (s : String) : (ofString s).HasUtf8 :=
  hasUtf8_map_char s.toList

/-- A text without surrogates is that of a string. -/
theorem HasUtf8.exists_ofString (encodable : text.HasUtf8) : ∃ s, text = ofString s := by
  suffices chars : ∃ cs : List Char, text = cs.map .char by
    obtain ⟨cs, rfl⟩ := chars
    exact ⟨String.ofList cs, by rw [ofString, String.toList_ofList]⟩
  induction text with
  | nil => exact ⟨[], rfl⟩
  | cons point rest ih =>
      obtain ⟨cs, rfl⟩ := ih fun number held => encodable number (List.mem_cons_of_mem _ held)
      cases point with
      | char c => exact ⟨c :: cs, rfl⟩
      | surrogate number => exact (encodable number List.mem_cons_self).elim

/-! ## Characters -/

theorem charsFrom_map_char (position : Nat) (cs : List Char) :
    charsFrom position (cs.map .char) = .ok cs := by
  induction cs generalizing position with
  | nil => rfl
  | cons c cs ih => rw [List.map_cons, charsFrom, ih]

theorem chars_ofString (s : String) : (ofString s).chars = .ok s.toList :=
  charsFrom_map_char 0 s.toList

theorem eq_of_charsFrom {position : Nat} {cs : List Char} (read : charsFrom position text = .ok cs) :
    text = cs.map .char := by
  induction text generalizing position cs with
  | nil =>
      obtain rfl := Except.ok.inj read
      rfl
  | cons point rest ih =>
      cases point with
      | surrogate first => contradiction
      | char c =>
          cases behind : charsFrom (position + 1) rest with
          | error surrogates => simp [charsFrom, behind] at read
          | ok rest_chars =>
              obtain rfl : c :: rest_chars = cs := by simpa [charsFrom, behind] using read
              rw [List.map_cons, ← ih behind]

/-- A text in which a surrogate stands has no characters. -/
theorem exists_error_chars (torn : ¬text.HasUtf8) : ∃ surrogates, text.chars = .error surrogates := by
  cases read : text.chars with
  | error surrogates => exact ⟨surrogates, rfl⟩
  | ok cs => exact (torn (eq_of_charsFrom read ▸ hasUtf8_map_char cs)).elim

end Reconciler.Text.Points
