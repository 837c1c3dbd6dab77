/-!
# Base64

The standard alphabet with padding. The reader is strict: nothing but the alphabet and the padding
that the length calls for is accepted, except that padding may follow complete groups. The bits that
the last group leaves over are not looked at.
-/

namespace Reconciler.Text.Base64

/-- The sixty-four characters. -/
def alphabet : Array Char :=
  "ABCDEFGHIJKLMNOPQRSTUVWXYZabcdefghijklmnopqrstuvwxyz0123456789+/".toList.toArray

/-- The character of a number below 64. -/
def encodeSextet (n : Nat) : Char :=
  alphabet.getD n 'A'

/-- The number that a character stands for. -/
def decodeSextet? (c : Char) : Option Nat :=
  let n := c.toNat
  if 0x41 ≤ n && n ≤ 0x5A then some (n - 0x41)
  else if 0x61 ≤ n && n ≤ 0x7A then some (n - 0x61 + 26)
  else if 0x30 ≤ n && n ≤ 0x39 then some (n - 0x30 + 52)
  else if c == '+' then some 62
  else if c == '/' then some 63
  else none

/-- The base64 form of a sequence of bytes. -/
def encode : List UInt8 → List Char
  | [] => []
  | [a] =>
    let a := a.toNat
    [encodeSextet (a / 4), encodeSextet (a % 4 * 16), '=', '=']
  | [a, b] =>
    let a := a.toNat
    let b := b.toNat
    [encodeSextet (a / 4), encodeSextet (a % 4 * 16 + b / 16), encodeSextet (b % 16 * 4), '=']
  | a :: b :: c :: rest =>
    let a := a.toNat
    let b := b.toNat
    let c := c.toNat
    [encodeSextet (a / 4), encodeSextet (a % 4 * 16 + b / 16), encodeSextet (b % 16 * 4 + c / 64),
      encodeSextet (c % 64)] ++ encode rest

/-- The bytes of a sequence of sextets; a single sextet left over has no byte. -/
def bytes? : List Nat → Option (List UInt8)
  | [] => some []
  | [_] => none
  | [a, b] => some [UInt8.ofNat (a * 4 + b / 16)]
  | [a, b, c] => some [UInt8.ofNat (a * 4 + b / 16), UInt8.ofNat (b % 16 * 16 + c / 4)]
  | a :: b :: c :: d :: rest =>
    (bytes? rest).map fun tail =>
      UInt8.ofNat (a * 4 + b / 16) :: UInt8.ofNat (b % 16 * 16 + c / 4) ::
        UInt8.ofNat (c % 4 * 64 + d) :: tail

/-- The padding fits behind a number of data characters. -/
def paddingFits (data : Nat) (padding : List Char) : Bool :=
  match data % 4 with
  | 0 => padding.isEmpty || (data != 0 && padding.all (· == '='))
  | 2 => padding == ['=', '=']
  | 3 => padding == ['=']
  | _ => false

/-- The bytes of a base64 form. -/
def decode? (cs : List Char) : Option (List UInt8) :=
  let data := cs.takeWhile (· != '=')
  if paddingFits data.length (cs.dropWhile (· != '=')) then
    (data.mapM decodeSextet?).bind bytes?
  else none

end Reconciler.Text.Base64
