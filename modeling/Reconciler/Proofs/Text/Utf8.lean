import Mathlib.Algebra.Group.Nat.Defs
import Mathlib.Tactic.SplitIfs
import Reconciler.Text.Utf8

/-!
# Texts out of their bytes

Reading the bytes of a text gives the text back.  The first byte of a character says how many bytes follow
it, and the bytes together hold the digits of its code point in base 64.
-/

namespace Reconciler.Text.Utf8

/-! ## Bytes of texts -/

theorem toList_loop (bytes : ByteArray) (i : Nat) (read : List UInt8) :
    ByteArray.toList.loop bytes i read = read.reverse ++ bytes.data.toList.drop i := by
  induction i, read using ByteArray.toList.loop.induct bytes with
  | case1 i read inside ih =>
      have held : i < bytes.data.toList.length := inside
      have found : bytes.get! i = bytes.data.toList[i] := getElem!_pos bytes.data i inside
      rw [ByteArray.toList.loop, if_pos inside, ih, List.drop_eq_getElem_cons held, found]
      simp
  | case2 i read outside =>
      have past : bytes.data.toList.length ≤ i := Nat.le_of_not_lt outside
      rw [ByteArray.toList.loop, if_neg outside, List.drop_eq_nil_of_le past, List.append_nil]

/-- The bytes of a text are those of its characters, one after the other. -/
theorem encode_eq (s : String) : encode s = s.toList.flatMap String.utf8EncodeChar := by
  rw [encode, String.toUTF8, ← String.utf8Encode_toList, List.utf8Encode, ByteArray.toList,
    toList_loop, List.data_toByteArray]
  rfl

theorem encode_singleton (c : Char) : encode (String.singleton c) = String.utf8EncodeChar c := by
  rw [encode_eq, String.toList_singleton, List.flatMap_singleton]

/-! ## Reading bytes -/

theorem chars_inside (follow rest : List UInt8) :
    chars follow.length (follow ++ rest) = chars 0 rest := by
  induction follow with
  | nil => rfl
  | cons b follow ih => exact ih

/-- A byte that continues a character adds its lower six bits. -/
theorem continued_cons {low high code b missing result taken : Nat} {rest : List UInt8}
    (byte : b < 256) (within : low ≤ b ∧ b ≤ high)
    (read : continued 0x80 0xBF (code * 64 + b % 64) missing rest = (some result, taken)) :
    continued low high code (missing + 1) (UInt8.ofNat b :: rest) = (some result, taken + 1) := by
  rw [continued, UInt8.toNat_ofNat_of_lt' byte, if_pos (by simpa using within), read]

theorem chars_of_ascii {n : Nat} (small : n < 0x80) (rest : List UInt8) :
    chars 0 (UInt8.ofNat n :: rest) = Char.ofNat n :: chars 0 rest := by
  have byte : n < UInt8.size := Nat.lt_trans small (by decide)
  rw [chars, head, UInt8.toNat_ofNat_of_lt' byte]
  simp [small]

/-- The first byte of a longer character says how many bytes follow, and holds its upper bits. -/
theorem chars_of_shape {first missing low high code : Nat} {follow rest : List UInt8}
    (byte : first < 256) (large : 0x80 ≤ first) (shaped : shape? first = some (missing, low, high))
    (read : continued low high (first % 2 ^ (6 - missing)) missing (follow ++ rest) =
      (some code, follow.length)) :
    chars 0 (UInt8.ofNat first :: follow ++ rest) = Char.ofNat code :: chars 0 rest := by
  have taken : head (UInt8.ofNat first) (follow ++ rest) = (Char.ofNat code, follow.length) := by
    rw [head, UInt8.toNat_ofNat_of_lt' byte]
    simp only [Nat.not_lt.mpr large, if_false, shaped, Nat.pow_eq, read]
  rw [List.cons_append, chars, taken, chars_inside]

/-- Behind some first bytes the second byte is bounded more narrowly: no character is written longer than
needed, and the surrogates are none. -/
theorem shape?_three (first : Nat) (low : 0xE0 ≤ first) (high : first ≤ 0xEF) :
    shape? first = some (2, if first = 0xE0 then 0xA0 else 0x80, if first = 0xED then 0x9F else 0xBF) := by
  grind [shape?]

theorem shape?_four (first : Nat) (low : 0xF0 ≤ first) (high : first ≤ 0xF4) :
    shape? first = some (3, if first = 0xF0 then 0x90 else 0x80, if first = 0xF4 then 0x8F else 0xBF) := by
  grind [shape?]

theorem chars_of_two {n : Nat} (low : 0x80 ≤ n) (high : n < 0x800) (rest : List UInt8) :
    chars 0 ([UInt8.ofNat (n / 64 % 32 + 192), UInt8.ofNat (n % 64 + 128)] ++ rest) =
      Char.ofNat n :: chars 0 rest := by
  have shaped : shape? (n / 64 % 32 + 192) = some (1, 0x80, 0xBF) := by
    grind [shape?]
  have joined : (n / 64 % 32 + 192) % 2 ^ (6 - 1) * 64 + (n % 64 + 128) % 64 = n := by omega
  refine chars_of_shape (by omega) (by omega) shaped (continued_cons (by omega) (by omega) ?_)
  rw [joined]
  rfl

theorem chars_of_three {n : Nat} (low : 0x800 ≤ n) (high : n < 0x10000)
    (valid : n < 0xD800 ∨ 0xDFFF < n) (rest : List UInt8) :
    chars 0 ([UInt8.ofNat (n / 4096 % 16 + 224), UInt8.ofNat (n / 64 % 64 + 128),
      UInt8.ofNat (n % 64 + 128)] ++ rest) = Char.ofNat n :: chars 0 rest := by
  have shaped := shape?_three (n / 4096 % 16 + 224) (by omega) (by omega)
  have joined : ((n / 4096 % 16 + 224) % 2 ^ (6 - 2) * 64 + (n / 64 % 64 + 128) % 64) * 64 +
      (n % 64 + 128) % 64 = n := by omega
  refine chars_of_shape (by omega) (by omega) shaped
    (continued_cons (by omega) ⟨?_, ?_⟩ (continued_cons (by omega) (by omega) ?_))
  · split_ifs <;> omega
  · split_ifs <;> omega
  · rw [joined]
    rfl

theorem chars_of_four {n : Nat} (low : 0x10000 ≤ n) (high : n < 0x110000) (rest : List UInt8) :
    chars 0 ([UInt8.ofNat (n / 262144 % 8 + 240), UInt8.ofNat (n / 4096 % 64 + 128),
      UInt8.ofNat (n / 64 % 64 + 128), UInt8.ofNat (n % 64 + 128)] ++ rest) =
        Char.ofNat n :: chars 0 rest := by
  have shaped := shape?_four (n / 262144 % 8 + 240) (by omega) (by omega)
  have joined : (((n / 262144 % 8 + 240) % 2 ^ (6 - 3) * 64 + (n / 4096 % 64 + 128) % 64) * 64 +
      (n / 64 % 64 + 128) % 64) * 64 + (n % 64 + 128) % 64 = n := by omega
  refine chars_of_shape (by omega) (by omega) shaped (continued_cons (by omega) ⟨?_, ?_⟩
    (continued_cons (by omega) (by omega) (continued_cons (by omega) (by omega) ?_)))
  · split_ifs <;> omega
  · split_ifs <;> omega
  · rw [joined]
    rfl

/-- The code point of a character is none of the surrogates. -/
theorem chars_encodeChar (c : Char) (rest : List UInt8) :
    chars 0 (String.utf8EncodeChar c ++ rest) = c :: chars 0 rest := by
  have valid : c.toNat < 0xD800 ∨ 0xDFFF < c.toNat ∧ c.toNat < 0x110000 := c.valid
  unfold String.utf8EncodeChar
  rw [Char.toNat_val]
  dsimp only
  split_ifs with one two three
  · rw [List.singleton_append, chars_of_ascii (by omega), Char.ofNat_toNat]
  · rw [chars_of_two (by omega) (by omega), Char.ofNat_toNat]
  · rw [chars_of_three (by omega) (by omega) (by omega), Char.ofNat_toNat]
  · rw [chars_of_four (by omega) (by omega), Char.ofNat_toNat]

theorem chars_encode (cs : List Char) (rest : List UInt8) :
    chars 0 (cs.flatMap String.utf8EncodeChar ++ rest) = cs ++ chars 0 rest := by
  induction cs with
  | nil => rfl
  | cons c cs ih => rw [List.flatMap_cons, List.append_assoc, chars_encodeChar, ih, List.cons_append]

/-- Reading the bytes of a text gives the text back. -/
theorem decode_encode (s : String) : decode (encode s) = s := by
  have read := chars_encode s.toList []
  rw [List.append_nil, chars, List.append_nil] at read
  rw [decode, encode_eq, read, String.ofList_toList]

end Reconciler.Text.Utf8
