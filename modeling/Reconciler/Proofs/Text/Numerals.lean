import Mathlib.Algebra.Group.Nat.Defs
import Reconciler.Value.Access

/-!
# Numerals

The decimal form of a natural number is a numeral, and reading it gives the number back, as long as it has no
more digits than a number is read from.
-/

namespace Reconciler

variable {c : Char} {cs : List Char}

/-! ## Digits -/

theorem Text.bounds_of_isDigit (digit : c.isDigit = true) : 0x30 ≤ c.toNat ∧ c.toNat ≤ 0x39 := by
  simpa [Char.isDigit, UInt32.le_iff_toNat_le] using digit

theorem Text.digitValue?_of_isDigit (digit : c.isDigit = true) :
    Text.digitValue? c = some (c.toNat - 0x30) := by
  have bounds := Text.bounds_of_isDigit digit
  rw [Text.digitValue?, if_pos (by omega), if_pos (by simpa using bounds)]

theorem Text.isDigitSign_of_isDigit (digit : c.isDigit = true) : Text.isDigitSign c = true := by
  rw [Text.isDigitSign, Text.isDecimalDigit, Text.digitValue?_of_isDigit digit]
  rfl

theorem Text.isNumberMargin_of_isDigit (digit : c.isDigit = true) : Text.isNumberMargin c = false := by
  have bounds := Text.bounds_of_isDigit digit
  have apart : Text.isBlank c = false := by
    simp [Text.isBlank]
    omega
  rw [Text.isNumberMargin, apart, Bool.false_and]

theorem Text.trimChars_of_clean {isMargin : Char → Bool} (clean : ∀ c ∈ cs, isMargin c = false) :
    Text.trimChars isMargin cs = cs := by
  have kept {cs : List Char} (clean : ∀ c ∈ cs, isMargin c = false) : cs.dropWhile isMargin = cs := by
    cases cs with
    | nil => rfl
    | cons c cs => rw [List.dropWhile_cons, clean c List.mem_cons_self, if_neg Bool.false_ne_true]
  rw [Text.trimChars, kept clean, kept fun c mem => clean c (List.mem_reverse.mp mem), List.reverse_reverse]

/-- Without underscores, the digits are read one by one. -/
theorem digitsOf?_of_isDigit (nonempty : cs ≠ []) (digits : ∀ c ∈ cs, c.isDigit = true) :
    digitsOf? cs = some (cs.map fun c => c.toNat - 0x30) := by
  induction cs with
  | nil => contradiction
  | cons c cs ih =>
      rw [List.forall_mem_cons] at digits
      have read := Text.digitValue?_of_isDigit digits.1
      cases cs with
      | nil => simp [digitsOf?, read]
      | cons d rest =>
          have apart : d ≠ '_' := by
            rintro rfl
            exact absurd (digits.2 '_' List.mem_cons_self) (by decide)
          rw [digitsOf?, read, ih (by simp) digits.2]
          · rfl
          · simp
          · simpa using apart

/-! ## Numbers in decimal form -/

theorem isDigit_of_mem_repr {n : Nat} (mem : c ∈ n.repr.toList) : c.isDigit = true := by
  rw [Nat.toList_repr] at mem
  exact Nat.isDigit_of_mem_toDigits (by decide) (by decide) mem

/-- The decimal form of a number is read as the number, unless it has too many digits. -/
theorem wholeOfText?_repr (n : Nat) :
    wholeOfText? n.repr = if n < 10 ^ Text.digitLimit then some (n : Int) else none := by
  have digits : ∀ c ∈ n.repr.toList, c.isDigit = true := fun c => isDigit_of_mem_repr
  have trimmed : Text.trimChars Text.isNumberMargin n.repr.toList = n.repr.toList :=
    Text.trimChars_of_clean fun c mem => Text.isNumberMargin_of_isDigit (digits c mem)
  have read := digitsOf?_of_isDigit (by simp) digits
  have unsigned (sign : Char) (rest : List Char) (written : n.repr.toList = sign :: rest) :
      sign.isDigit = true := digits sign (by rw [written]; exact List.mem_cons_self)
  unfold wholeOfText?
  dsimp only
  rw [trimmed]
  split
  next rest written => exact absurd (unsigned _ _ written) (by decide)
  next rest written => exact absurd (unsigned _ _ written) (by decide)
  next =>
    have short : ¬Text.digitLimit < n.repr.toList.length ↔ n < 10 ^ Text.digitLimit := by
      rw [Nat.not_lt, Nat.toList_repr, Nat.length_toDigits_le_iff (by decide) (by decide)]
    have value : (n.repr.toList.map fun c => c.toNat - 0x30).foldl (fun n d => 10 * n + d) 0 = n := by
      rw [List.foldl_map, Nat.toList_repr]
      exact Nat.ofDigitChars_ten_toDigits
    rw [read, Option.bind_eq_bind, Option.bind_some, List.length_map, value]
    split
    next long => rw [if_neg (mt short.mpr (Decidable.not_not.mpr long))]
    next fits => rw [if_pos (short.mp fits)]; rfl

end Reconciler
