import Reconciler.Text.Class
import Reconciler.Text.PrintableTable

/-!
# Quoted literals

The literal form of a text inside a printed value. Single quotes enclose it unless it holds a single
quote and no double quote; the enclosing quote, the backslash and every character without a printed
form are escaped.
-/

namespace Reconciler.Text

/-- The character is printed as itself. -/
def isPrintable (c : Char) : Bool :=
  if c.toNat < 0x80 then 0x20 ≤ c.toNat && c.toNat < 0x7F
  else !inRanges unprintableRanges c.toNat

/-- The lower-case hexadecimal digits of a number, padded with zeros to a width. -/
def hexDigits (width n : Nat) : List Char :=
  let digits := Nat.toDigits 16 n
  List.replicate (width - digits.length) '0' ++ digits

/-- The single quote. -/
def singleQuote : Char := Char.ofNat 0x27

/-- The escape of a character without a printed form, as short as its code point allows. -/
def escapeUnprintable (c : Char) : List Char :=
  if c.toNat < 0x100 then '\\' :: 'x' :: hexDigits 2 c.toNat
  else if c.toNat < 0x10000 then '\\' :: 'u' :: hexDigits 4 c.toNat
  else '\\' :: 'U' :: hexDigits 8 c.toNat

/-- The form of one character inside a literal enclosed by `quote`. -/
def quoteChar (quote c : Char) : List Char :=
  if c == quote || c == '\\' then ['\\', c]
  else if c == '\n' then ['\\', 'n']
  else if c == '\r' then ['\\', 'r']
  else if c == '\t' then ['\\', 't']
  else if isPrintable c then [c]
  else escapeUnprintable c

/-- The quote that encloses the literal of a text. -/
def enclosingQuote (cs : List Char) : Char :=
  if cs.contains singleQuote && !cs.contains '"' then '"' else singleQuote

/-- The literal of a text. -/
def quoted (s : String) : String :=
  let quote := enclosingQuote s.toList
  String.ofList (quote :: s.toList.flatMap (quoteChar quote) ++ [quote])

end Reconciler.Text
