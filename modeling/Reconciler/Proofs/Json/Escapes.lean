import Mathlib.Tactic.SplitIfs
import Reconciler.Json.Writer

/-!
# Escapes in written texts

A text is written between two quotes.  What is written for a character is the character itself, behind a
backslash at times, or an escape that is made of a backslash, letters and digits.
-/

namespace Reconciler.Json

/-- The characters of escapes, except for the quote. -/
def escapeChars : List Char :=
  "\\nrtbfu0123456789abcdef".toList

theorem digitChar_mem_escapeChars : ∀ d < 16, Nat.digitChar d ∈ escapeChars := by
  decide

theorem mem_escapeChars_of_toDigits {c : Char} {n : Nat} (mem : c ∈ Nat.toDigits 16 n) :
    c ∈ escapeChars := by
  induction n using Nat.strongRecOn with
  | _ n ih =>
      rw [Nat.toDigits_eq_if (by decide)] at mem
      split at mem
      next small =>
        rw [List.mem_singleton] at mem
        exact mem ▸ digitChar_mem_escapeChars n small
      next large =>
        rw [List.mem_append, List.mem_singleton] at mem
        obtain front | rfl := mem
        · exact ih (n / 16) (by omega) front
        · exact digitChar_mem_escapeChars _ (Nat.mod_lt _ (by decide))

theorem mem_escapeChars_of_unitEscape {c : Char} {unit : Nat} (mem : c ∈ unitEscape unit) :
    c ∈ escapeChars := by
  rw [unitEscape, Text.hexDigits, List.mem_cons, List.mem_cons, List.mem_append] at mem
  obtain rfl | rfl | padding | digit := mem
  · decide
  · decide
  · rw [List.eq_of_mem_replicate padding]
    decide
  · exact mem_escapeChars_of_toDigits digit

theorem mem_escapeChars_of_charEscape {c d : Char} (mem : d ∈ charEscape c) : d ∈ escapeChars := by
  simp only [charEscape] at mem
  split at mem
  · exact mem_escapeChars_of_unitEscape mem
  · rw [List.mem_append] at mem
    exact mem.elim mem_escapeChars_of_unitEscape mem_escapeChars_of_unitEscape

/-- A character is written as itself, or behind other characters that escapes are made of. -/
theorem mem_stringChar {ascii : Bool} {c d : Char} (mem : d ∈ stringChar ascii c) :
    d = c ∨ d ∈ escapeChars := by
  have short {e : Char} (held : e = c ∨ e ∈ escapeChars) (mem : d ∈ ['\\', e]) :
      d = c ∨ d ∈ escapeChars := by
    rw [List.mem_cons, List.mem_singleton] at mem
    obtain rfl | rfl := mem
    · exact .inr (by decide)
    · exact held
  unfold stringChar at mem
  split_ifs at mem with quote
  · exact short (.inl (beq_iff_eq.mp quote).symm) mem
  all_goals first
    | exact short (.inr (by decide)) mem
    | exact .inr (mem_escapeChars_of_charEscape mem)
    | exact .inl (List.mem_singleton.mp mem)

/-- The characters of a text inside of quotes. -/
def written (ascii : Bool) (cs : List Char) : List Char :=
  cs.flatMap (stringChar ascii)

theorem toList_string (ascii : Bool) (s : String) :
    (string ascii s).toList = '"' :: (written ascii s.toList ++ ['"']) := by
  rw [string, String.toList_ofList, List.cons_append, written]

/-- What is no part of escapes is written only where it stands. -/
theorem not_mem_written {ascii : Bool} {cs : List Char} {d : Char} (absent : d ∉ cs)
    (other : d ∉ escapeChars) : d ∉ written ascii cs := by
  intro mem
  obtain ⟨c, c_mem, mem⟩ := List.mem_flatMap.mp mem
  obtain rfl | escape := mem_stringChar mem
  · exact absent c_mem
  · exact other escape

theorem written_append_quote (ascii : Bool) (before after : List Char) :
    written ascii (before ++ '"' :: after) =
      written ascii before ++ ['\\'] ++ '"' :: written ascii after := by
  rw [written, written, written, List.flatMap_append, List.flatMap_cons,
    List.append_assoc]
  rfl

end Reconciler.Json
