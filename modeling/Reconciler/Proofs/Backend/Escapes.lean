import Reconciler.Backend.Client
import Reconciler.Description.Loading
import Reconciler.Proofs.Text.Points
import Reconciler.Proofs.Text.Utf8

/-!
# Escaped texts

The form of a string in a part of a path is made of characters that mean nothing in an address, except for
the sign that begins an escape; and it can be read back, for every string.  A text has that form when it is
the text of a string; with a surrogate in it, it has none.
-/

namespace Reconciler.Client

variable {c d : Char}

/-! ## Characters of escapes -/

theorem isUnreserved_hexDigit : ∀ n < 16, isUnreserved (hexDigit n) = true := by
  decide

theorem hexValue?_hexDigit : ∀ n < 16, Json.hexValue? (hexDigit n) = some n := by
  decide

theorem mem_escapeByte {b : UInt8} (mem : c ∈ escapeByte b) : isUnreserved c = true ∨ c = '%' := by
  have byte : b.toNat < 256 := b.toNat_lt
  simp only [escapeByte, List.mem_cons, List.not_mem_nil, or_false] at mem
  obtain rfl | rfl | rfl := mem
  · exact .inr rfl
  · exact .inl (isUnreserved_hexDigit _ (by omega))
  · exact .inl (isUnreserved_hexDigit _ (by omega))

/-- What a string becomes in a part of a path is made of unreserved characters and of escapes. -/
theorem mem_escapeText {s : String} (mem : c ∈ (escapeText s).toList) : isUnreserved c = true ∨ c = '%' := by
  rw [escapeText, String.toList_ofList] at mem
  obtain ⟨d, -, mem⟩ := List.mem_flatMap.mp mem
  unfold escapeChar at mem
  split at mem
  next unreserved =>
    rw [List.mem_singleton] at mem
    exact .inl (mem ▸ unreserved)
  next =>
    obtain ⟨b, -, mem⟩ := List.mem_flatMap.mp mem
    exact mem_escapeByte mem

/-- A reserved character is in no part of a path into which a string was put. -/
theorem not_mem_escapeText {s : String} (reserved : isUnreserved c = false) (apart : c ≠ '%') :
    c ∉ (escapeText s).toList := by
  intro mem
  rcases mem_escapeText mem with unreserved | rfl
  · rw [reserved] at unreserved
    contradiction
  · exact apart rfl

/-! ## Reading escapes -/

theorem unescapedBytes_escapeByte (b : UInt8) (rest : List Char) :
    Place.unescapedBytes (escapeByte b ++ rest) = b :: Place.unescapedBytes rest := by
  have byte : b.toNat < 256 := b.toNat_lt
  have upper := hexValue?_hexDigit (b.toNat / 16) (by omega)
  have lower := hexValue?_hexDigit (b.toNat % 16) (by omega)
  rw [escapeByte, List.cons_append, List.cons_append, List.singleton_append, Place.unescapedBytes,
    upper, lower]
  dsimp only
  rw [Nat.div_add_mod, UInt8.ofNat_toNat]

theorem unescapedBytes_escapeBytes (bytes : List UInt8) (rest : List Char) :
    Place.unescapedBytes (bytes.flatMap escapeByte ++ rest) = bytes ++ Place.unescapedBytes rest := by
  induction bytes with
  | nil => rfl
  | cons b bytes ih =>
      rw [List.flatMap_cons, List.append_assoc, unescapedBytes_escapeByte, ih, List.cons_append]

theorem unescapedBytes_cons (apart : c ≠ '%') (rest : List Char) :
    Place.unescapedBytes (c :: rest) =
      Text.Utf8.encode (String.singleton c) ++ Place.unescapedBytes rest := by
  rw [Place.unescapedBytes]
  intro _ _ _ same
  exact absurd same apart

theorem unescapedBytes_escapeChar (c : Char) (rest : List Char) :
    Place.unescapedBytes (escapeChar c ++ rest) =
      String.utf8EncodeChar c ++ Place.unescapedBytes rest := by
  unfold escapeChar
  rw [← Text.Utf8.encode_singleton]
  split
  next unreserved =>
    refine unescapedBytes_cons ?_ rest
    rintro rfl
    contradiction
  next => exact unescapedBytes_escapeBytes _ rest

/-- Each string can be read back from what it becomes in a part of a path. -/
theorem unescaped_escapeText (s : String) : Place.unescaped (escapeText s).toList = s := by
  have bytes (cs : List Char) : Place.unescapedBytes (cs.flatMap escapeChar) =
      cs.flatMap String.utf8EncodeChar := by
    induction cs with
    | nil => rfl
    | cons c cs ih => rw [List.flatMap_cons, unescapedBytes_escapeChar, ih, List.flatMap_cons]
  rw [Place.unescaped, escapeText, String.toList_ofList, bytes, ← Text.Utf8.encode_eq,
    Text.Utf8.decode_encode]

/-! ## Texts -/

open Text (Points)

/-- The text of a string has the form of the string. -/
theorem escape_ofString (s : String) : escape (.ofString s) = .ok (.ofString (escapeText s)) := by
  rw [escape, Points.chars_ofString, Points.ofString, escapeText, String.toList_ofList]

/-- A text without a UTF-8 form has no form in a path. -/
theorem escape_of_not_hasUtf8 {text : Points} (torn : ¬text.HasUtf8) :
    ∃ surrogates, escape text = .error (.shape (.lone surrogates)) := by
  obtain ⟨surrogates, failed⟩ := Points.exists_error_chars torn
  exact ⟨surrogates, by rw [escape, failed]⟩

end Reconciler.Client
