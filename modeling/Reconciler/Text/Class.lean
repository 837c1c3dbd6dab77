/-!
# Classes of characters

White space, decimal digits of every script, and the digit signs that are digits without a decimal
value.
-/

namespace Reconciler.Text

/-- One of the ranges, both ends included, holds the code point. -/
def inRanges (ranges : Array (Nat × Nat)) (code : Nat) : Bool :=
  ranges.any fun range => range.1 ≤ code && code ≤ range.2

/-- The white space characters: controls 9 to 13 and 28 to 31, the space, and the other separators. -/
def isBlank (c : Char) : Bool :=
  let code := c.toNat
  (9 ≤ code && code ≤ 13) || (28 ≤ code && code ≤ 32) || code == 0x85 || code == 0xA0 ||
    code == 0x1680 || (0x2000 ≤ code && code ≤ 0x200A) || code == 0x2028 || code == 0x2029 ||
    code == 0x202F || code == 0x205F || code == 0x3000

/-- The code points of the zeros; the digits one to nine of the same script follow each. -/
def digitZeros : Array Nat :=
  #[
    0x30, 0x660, 0x6F0, 0x7C0, 0x966, 0x9E6, 0xA66, 0xAE6, 0xB66, 0xBE6, 0xC66, 0xCE6, 0xD66,
    0xDE6, 0xE50, 0xED0, 0xF20, 0x1040, 0x1090, 0x17E0, 0x1810, 0x1946, 0x19D0, 0x1A80, 0x1A90,
    0x1B50, 0x1BB0, 0x1C40, 0x1C50, 0xA620, 0xA8D0, 0xA900, 0xA9D0, 0xA9F0, 0xAA50, 0xABF0,
    0xFF10, 0x104A0, 0x10D30, 0x11066, 0x110F0, 0x11136, 0x111D0, 0x112F0, 0x11450, 0x114D0,
    0x11650, 0x116C0, 0x11730, 0x118E0, 0x11950, 0x11C50, 0x11D50, 0x11DA0, 0x16A60, 0x16AC0,
    0x16B50, 0x1D7CE, 0x1D7D8, 0x1D7E2, 0x1D7EC, 0x1D7F6, 0x1E140, 0x1E2F0, 0x1E950, 0x1FBF0]

/-- The value of a decimal digit of any script. -/
def digitValue? (c : Char) : Option Nat :=
  if c.toNat < 0x80 then
    if 0x30 ≤ c.toNat && c.toNat ≤ 0x39 then some (c.toNat - 0x30) else none
  else
    (digitZeros.find? fun first => first ≤ c.toNat && c.toNat ≤ first + 9).map (c.toNat - ·)

/-- The character is a decimal digit of some script. -/
def isDecimalDigit (c : Char) : Bool :=
  (digitValue? c).isSome

/-- The most decimal digits that a whole number is read from. -/
def digitLimit : Nat := 4300

/-- The character is no part of the whole number beside it: white space without the four
separators. -/
def isNumberMargin (c : Char) : Bool :=
  isBlank c && !(28 ≤ c.toNat && c.toNat ≤ 31)

/-- The ranges of digit signs without a decimal value: superscripts, subscripts, enclosed digits. -/
def digitSignRanges : Array (Nat × Nat) :=
  #[
    (0xB2, 0xB3), (0xB9, 0xB9), (0x1369, 0x1371), (0x19DA, 0x19DA), (0x2070, 0x2070),
    (0x2074, 0x2079), (0x2080, 0x2089), (0x2460, 0x2468), (0x2474, 0x247C), (0x2488, 0x2490),
    (0x24EA, 0x24EA), (0x24F5, 0x24FD), (0x24FF, 0x24FF), (0x2776, 0x277E), (0x2780, 0x2788),
    (0x278A, 0x2792), (0x10A40, 0x10A43), (0x10E60, 0x10E68), (0x11052, 0x1105A),
    (0x1F100, 0x1F10A)]

/-- The character is a decimal digit or a digit sign. -/
def isDigitSign (c : Char) : Bool :=
  isDecimalDigit c || inRanges digitSignRanges c.toNat

/-- The characters without those of a class at both ends. -/
def trimChars (isMargin : Char → Bool) (cs : List Char) : List Char :=
  ((cs.dropWhile isMargin).reverse.dropWhile isMargin).reverse

/-- The text without the white space at both ends. -/
def trim (s : String) : String :=
  String.ofList (trimChars isBlank s.toList)

/-- The text without the given character at its end. -/
def trimRight (c : Char) (s : String) : String :=
  String.ofList (s.toList.reverse.dropWhile (· == c)).reverse

/-- The characters between the separators; one piece when there is no separator. -/
def splitChars (separator : Char) : List Char → List (List Char)
  | [] => [[]]
  | c :: rest =>
    if c == separator then [] :: splitChars separator rest
    else
      match splitChars separator rest with
      | [] => [[c]]
      | piece :: pieces => (c :: piece) :: pieces

/-- The pieces between the separators; one piece when there is no separator. -/
def split (separator : Char) (s : String) : List String :=
  (splitChars separator s.toList).map String.ofList

/-- The characters after the first occurrence of a word, with those before it. -/
def cut? (word : List Char) : List Char → Option (List Char × List Char)
  | [] => if word.isEmpty then some ([], []) else none
  | c :: rest =>
    if word.isPrefixOf (c :: rest) then some ([], (c :: rest).drop word.length)
    else (cut? word rest).map fun (before, after) => (c :: before, after)

/-- The sequence with every occurrence of a non-empty word replaced, from left to right. -/
def replaceChars {α : Type} [BEq α] (word replacement text : List α) : List α :=
  go text text.length
where
  /-- Replacement in what is left of the text; the bound is its length. -/
  go : List α → Nat → List α
    | [], _ => []
    | text, 0 => text
    | c :: rest, bound + 1 =>
      if word.isEmpty then c :: rest
      else if word.isPrefixOf (c :: rest) then
        replacement ++ go ((c :: rest).drop word.length) bound
      else c :: go rest bound

/-- The text with every occurrence of a non-empty word replaced, from left to right. -/
def replace (word replacement s : String) : String :=
  String.ofList (replaceChars word.toList replacement.toList s.toList)

/-- The word occurs somewhere in the text. -/
def contains (s word : String) : Bool :=
  (cut? word.toList s.toList).isSome

end Reconciler.Text
