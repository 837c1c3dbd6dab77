import Reconciler.Text.CaseTable
import Reconciler.Text.Class

/-!
# Letter case

The full lower-case and upper-case forms of a text. A sigma at the end of a word has a lower-case
form of its own, and a few characters have several characters as their image.
-/

namespace Reconciler.Text

/-- The image of a code point under a table of runs. -/
def CaseRun.image? (runs : Array CaseRun) (code : Nat) : Option Char :=
  (runs.find? fun run =>
    run.first ≤ code && code ≤ run.last && (code - run.first) % run.step == 0).map fun run =>
      Char.ofNat (Int.toNat (code + run.shift))

/-- The lower-case character of a character, taken by itself. -/
def lowerChar (c : Char) : Char :=
  if c.toNat < 0x80 then c.toLower else (CaseRun.image? lowerRuns c.toNat).getD c

/-- A cased character follows, behind characters that a sigma looks through. -/
def casedAhead : List Char → Bool
  | [] => false
  | c :: rest =>
    if inRanges caseIgnorableRanges c.toNat then casedAhead rest
    else inRanges casedRanges c.toNat

/-- The lower-case form of the characters after those `before`, which are given in reverse. -/
def lowerChars (before : List Char) : List Char → List Char
  | [] => []
  | c :: rest =>
    let image :=
      if c.toNat == 0x130 then ['i', Char.ofNat 0x307]
      else if c.toNat == 0x3A3 then
        if casedAhead before && !casedAhead rest then [Char.ofNat 0x3C2] else [Char.ofNat 0x3C3]
      else [lowerChar c]
    image ++ lowerChars (c :: before) rest

/-- The lower-case form of a text. -/
def lower (s : String) : String :=
  String.ofList (lowerChars [] s.toList)

/-- The upper-case form of a character. -/
def upperChar (c : Char) : List Char :=
  if c.toNat < 0x80 then [c.toUpper]
  else
    match upperExpansions.find? fun entry => entry.1 == c.toNat with
    | some (_, image) => image.map Char.ofNat
    | none => [(CaseRun.image? upperRuns c.toNat).getD c]

/-- The upper-case form of a text. -/
def upper (s : String) : String :=
  String.ofList (s.toList.flatMap upperChar)

end Reconciler.Text
