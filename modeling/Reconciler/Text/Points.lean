/-!
# Texts with surrogates

Escapes by number can put a surrogate into a text that is no part of a pair. It stands for no character:
such a text is no string, and it has no UTF-8 form.
-/

namespace Reconciler.Text

/-- A code point of a text. -/
inductive Point where
  /-- A character. -/
  | char (c : Char)
  /-- A surrogate that is no part of a pair, by its number among the surrogates. -/
  | surrogate (number : Fin 0x800)
deriving DecidableEq, Repr

namespace Point

/-- The code point of a UTF-16 unit that stands by itself. -/
def ofUnit (unit : Nat) : Point :=
  if within : 0xD800 ≤ unit ∧ unit < 0xE000 then .surrogate ⟨unit - 0xD800, by omega⟩
  else .char (Char.ofNat unit)

/-- The code point is a surrogate. -/
def isSurrogate : Point → Bool
  | .char _ => false
  | .surrogate _ => true

/-- The character that a code point is shown as; a surrogate has the replacement character. -/
def shown : Point → Char
  | .char c => c
  | .surrogate _ => Char.ofNat 0xFFFD

end Point

/-- A text in which surrogates may stand. -/
abbrev Points := List Point

/-- The first surrogates in a row that keep a text from having a UTF-8 form. -/
structure LoneSurrogates where
  /-- The number of the first one among the surrogates. -/
  first : Fin 0x800
  /-- The number of code points in front of it. -/
  position : Nat
  /-- The number of surrogates that follow it in the row. -/
  more : Nat
deriving DecidableEq, Repr

namespace LoneSurrogates

/-- The name of the first surrogate and its place, or the places of the row. -/
def place (lone : LoneSurrogates) : String :=
  if lone.more == 0 then
    let digits := Nat.toDigits 16 (0xD800 + lone.first)
    "character '\\u" ++ String.ofList digits ++ "' in position " ++ toString lone.position
  else
    "characters in position " ++ toString lone.position ++ "-" ++ toString (lone.position + lone.more)

end LoneSurrogates

namespace Points

/-- The code points of a string. -/
def ofString (s : String) : Points :=
  s.toList.map .char

/-- The characters of a text with a UTF-8 form; `position` counts the code points in front. -/
def charsFrom (position : Nat) : Points → Except LoneSurrogates (List Char)
  | [] => .ok []
  | .char c :: rest =>
    match charsFrom (position + 1) rest with
    | .ok cs => .ok (c :: cs)
    | .error lone => .error lone
  | .surrogate first :: rest => .error ⟨first, position, (rest.takeWhile Point.isSurrogate).length⟩

/-- The characters of a text with a UTF-8 form. -/
def chars (text : Points) : Except LoneSurrogates (List Char) :=
  charsFrom 0 text

/-- The string that a text is shown as. -/
def shown (text : Points) : String :=
  String.ofList (text.map Point.shown)

end Points

end Reconciler.Text
