/-!
# Lossy UTF-8

The text of any sequence of bytes: what is no encoded character becomes the replacement character,
one for each longest start of an encoded character.
-/

namespace Reconciler.Text.Utf8

/-- The character that stands for bytes that encode none. -/
def replacement : Char :=
  Char.ofNat 0xFFFD

/-- The number of bytes behind the first byte of a character, and the range of the second byte. -/
def shape? (first : Nat) : Option (Nat × Nat × Nat) :=
  if 0xC2 ≤ first && first ≤ 0xDF then some (1, 0x80, 0xBF)
  else if first == 0xE0 then some (2, 0xA0, 0xBF)
  else if first == 0xED then some (2, 0x80, 0x9F)
  else if 0xE1 ≤ first && first ≤ 0xEF then some (2, 0x80, 0xBF)
  else if first == 0xF0 then some (3, 0x90, 0xBF)
  else if 0xF1 ≤ first && first ≤ 0xF3 then some (3, 0x80, 0xBF)
  else if first == 0xF4 then some (3, 0x80, 0x8F)
  else none

/-- The code point that continuing bytes complete, or nothing when one of them is missing or does not
fit, and the number of bytes that fit. -/
def continued (low high code : Nat) : Nat → List UInt8 → Option Nat × Nat
  | 0, _ => (some code, 0)
  | _ + 1, [] => (none, 0)
  | missing + 1, b :: rest =>
    if low ≤ b.toNat && b.toNat ≤ high then
      let (code, taken) := continued 0x80 0xBF (code * 64 + b.toNat % 64) missing rest
      (code, taken + 1)
    else (none, 0)

/-- The character at the start of a sequence of bytes, and the number of bytes behind the first one
that belong to it. -/
def head (first : UInt8) (rest : List UInt8) : Char × Nat :=
  let n := first.toNat
  if n < 0x80 then (Char.ofNat n, 0)
  else
    match shape? n with
    | none => (replacement, 0)
    | some (missing, low, high) =>
      match continued low high (n % Nat.pow 2 (6 - missing)) missing rest with
      | (some code, taken) => (Char.ofNat code, taken)
      | (none, taken) => (replacement, taken)

/-- The characters of a sequence of bytes; the first argument counts the bytes that still belong to
the last character. -/
def chars : Nat → List UInt8 → List Char
  | _, [] => []
  | inside + 1, _ :: rest => chars inside rest
  | 0, b :: rest => (head b rest).1 :: chars (head b rest).2 rest

/-- The text of a sequence of bytes. -/
def decode (bytes : List UInt8) : String :=
  String.ofList (chars 0 bytes)

/-- The bytes of a text. -/
def encode (s : String) : List UInt8 :=
  s.toUTF8.toList

end Reconciler.Text.Utf8
