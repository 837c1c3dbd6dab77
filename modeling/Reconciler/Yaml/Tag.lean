import Reconciler.Failure
import Reconciler.Value.Access
import Reconciler.Text.Base64
import Reconciler.Text.Case
import Reconciler.Yaml.Scalar

/-!
# Tags and the values of scalars

The kinds of nodes. A plain scalar without a tag is a null, a truth value, a number or a time when it
is written like one, and a text otherwise.
-/

namespace Reconciler.Yaml

/-- The kind of a node. -/
inductive Tag where
  /-- The absent value. -/
  | null
  /-- A truth value. -/
  | bool
  /-- A whole number. -/
  | int
  /-- A floating-point number. -/
  | float
  /-- Bytes in base64. -/
  | binary
  /-- A day or a moment. -/
  | timestamp
  /-- A text. -/
  | text
  /-- A list. -/
  | sequence
  /-- A map. -/
  | mapping
  /-- The key under which other maps are merged in. -/
  | merge
  /-- The key under which a default value stands. -/
  | defaultValue
  /-- A tag without a meaning here. -/
  | other (uri : String)
deriving DecidableEq, Repr

namespace Tag

/-- The start of the standard tags. -/
def standard : String := "tag:yaml.org,2002:"

/-- The tag with a written form. -/
def ofUri (uri : String) : Tag :=
  let names : List (String × Tag) :=
    [("null", .null), ("bool", .bool), ("int", .int), ("float", .float), ("binary", .binary),
      ("timestamp", .timestamp), ("str", .text), ("seq", .sequence), ("map", .mapping),
      ("merge", .merge), ("value", .defaultValue)]
  match names.find? fun entry => standard ++ entry.1 == uri with
  | some (_, tag) => tag
  | none => .other uri

end Tag

/-- The words of truth values. -/
def truthWords : List (String × Bool) :=
  [("yes", true), ("no", false), ("true", true), ("false", false), ("on", true), ("off", false)]

/-- A word is written in lower case, in upper case, or with a capital letter at its start. -/
def isCasing (word s : String) : Bool :=
  s == word || s == word.map Char.toUpper ||
    s == String.ofList ((word.toList.take 1).map Char.toUpper ++ word.toList.drop 1)

/-- The text without its sign. -/
def unsigned : List Char → List Char
  | '-' :: rest => rest
  | '+' :: rest => rest
  | cs => cs

/-- The character is a digit or an underscore. -/
def isDigitOr (c : Char) : Bool :=
  c == '_' || Json.isDigit c

/-- All characters are of a class, and there is one. -/
def allOf (accepts : Char → Bool) (cs : List Char) : Bool :=
  !cs.isEmpty && cs.all accepts

/-- A number with a first digit of a class, and underscores. -/
def isDecimal (first : Char → Bool) : List Char → Bool
  | c :: rest => first c && rest.all isDigitOr
  | [] => false

/-- The digits of a place in base sixty. -/
def isSixtieth : List Char → Bool
  | [a] => Json.isDigit a
  | [a, b] => '0' ≤ a && a ≤ '5' && Json.isDigit b
  | _ => false

/-- The digits from one to nine. -/
def isNonzero (c : Char) : Bool :=
  Json.isDigit c && c != '0'

/-- The scalar is written like a whole number. -/
def isInt (cs : List Char) : Bool :=
  match unsigned cs with
  | '0' :: 'b' :: digits => allOf (fun c => c == '0' || c == '1' || c == '_') digits
  | '0' :: 'x' :: digits => allOf (fun c => c == '_' || (Json.hexValue? c).isSome) digits
  | ['0'] => true
  | '0' :: digits => allOf (fun c => c == '_' || ('0' ≤ c && c ≤ '7')) digits
  | digits =>
    match Text.splitChars ':' digits with
    | [whole] => isDecimal isNonzero whole
    | first :: places => isDecimal isNonzero first && places.all isSixtieth
    | [] => false

/-- The end of a number is an exponent with a sign, or nothing. -/
def isSignedExponent : List Char → Bool
  | [] => true
  | e :: sign :: digits =>
    (e == 'e' || e == 'E') && (sign == '+' || sign == '-') && allOf Json.isDigit digits
  | _ => false

/-- The scalar is written like a floating-point number. -/
def isFloat (cs : List Char) : Bool :=
  let plain := unsigned cs
  let whole := plain.takeWhile (· != '.')
  match plain.dropWhile (· != '.') with
  | [] => false
  | _ :: fraction =>
    let digits := fraction.takeWhile isDigitOr
    let rest := fraction.dropWhile isDigitOr
    if whole.isEmpty then
      let word := String.ofList fraction
      ["inf", "Inf", "INF"].contains word ||
        (cs == plain &&
          (["nan", "NaN", "NAN"].contains word ||
            (isDecimal Json.isDigit digits && isSignedExponent rest)))
    else
      match Text.splitChars ':' whole with
      | [first] => isDecimal Json.isDigit first && isSignedExponent rest
      | first :: places => isDecimal Json.isDigit first && places.all isSixtieth && rest.isEmpty
      | [] => false

/-- A number of at least `least` and at most `most` digits, and the text after it. -/
def digitsBetween (least most : Nat) (cs : List Char) : Option (Nat × List Char) :=
  let digits := (cs.take most).takeWhile Json.isDigit
  if digits.length < least then none else some (Json.digitsValue digits, cs.drop digits.length)

/-- The text behind a character. -/
def behind (c : Char) : List Char → Option (List Char)
  | [] => none
  | d :: rest => if d == c then some rest else none

/-- The parts of a written time. -/
structure WrittenTime where
  /-- The day. -/
  day : Day
  /-- The time of day. -/
  clock : Option Clock
  /-- The day is written with all its digits. -/
  full : Bool

/-- The offset from universal time at the end of a written time. -/
def writtenOffset? : List Char → Option (Option Int)
  | [] => some none
  | cs =>
    match cs.dropWhile fun c => c == ' ' || c == '\t' with
    | [] => if cs.isEmpty then some none else some none
    | ['Z'] => some (some 0)
    | sign :: rest =>
      if sign != '-' && sign != '+' then none
      else do
        let (hours, rest) ← digitsBetween 1 2 rest
        let minutes ←
          match rest with
          | [] => pure 0
          | _ => do
            let (minutes, rest) ← digitsBetween 2 2 (← behind ':' rest)
            if rest.isEmpty then pure minutes else none
        let size : Int := hours * 60 + minutes
        pure (some (if sign == '-' then -size else size))

/-- The time of day at the end of a written time. -/
def writtenClock? (cs : List Char) : Option Clock := do
  let (hour, rest) ← digitsBetween 1 2 cs
  let (minute, rest) ← digitsBetween 2 2 (← behind ':' rest)
  let (second, rest) ← digitsBetween 2 2 (← behind ':' rest)
  let (fraction, rest) :=
    match rest with
    | '.' :: more => (more.takeWhile Json.isDigit, more.dropWhile Json.isDigit)
    | _ => ([], rest)
  let offset ← writtenOffset? rest
  let micro := Json.digitsValue ((fraction ++ List.replicate 6 '0').take 6)
  pure ⟨hour, minute, second, micro, offset⟩

/-- The time that a scalar is written like. -/
def writtenTime? (cs : List Char) : Option WrittenTime := do
  let (year, rest) ← digitsBetween 4 4 cs
  let monthDigits ← behind '-' rest
  let (month, rest) ← digitsBetween 1 2 monthDigits
  let dayDigits ← behind '-' rest
  let (day, rest) ← digitsBetween 1 2 dayDigits
  let full := (dayDigits.length - rest.length) + (monthDigits.length - dayDigits.length) == 5
  match rest with
  | [] => pure ⟨⟨year, month, day⟩, none, full⟩
  | c :: after =>
    let clock ←
      if c == 'T' || c == 't' then writtenClock? after
      else if c == ' ' || c == '\t' then
        writtenClock? (after.dropWhile fun c => c == ' ' || c == '\t')
      else none
    pure ⟨⟨year, month, day⟩, some clock, full⟩

/-- The scalar is written like a time: a day alone needs all its digits. -/
def isTimestamp (cs : List Char) : Bool :=
  match writtenTime? cs with
  | some time => time.clock.isSome || time.full
  | none => false

/-- The tag of a plain scalar by the way it is written. -/
def implicitTag (s : String) : Tag :=
  let cs := s.toList
  if truthWords.any fun entry => isCasing entry.1 s then .bool
  else if isFloat cs then .float
  else if isInt cs then .int
  else if s == "<<" then .merge
  else if s.isEmpty || s == "~" || isCasing "null" s then .null
  else if isTimestamp cs then .timestamp
  else if s == "=" then .defaultValue
  else .text

/-- The failure of a scalar that is not written as its tag asks. -/
def refuse {α : Type} (s : String) : Except Failure α :=
  .error (.shape (.notNumeral s))

/-- The number that digits of a base form. -/
def baseNumber? (base : Nat) (cs : List Char) : Option Nat :=
  if cs.isEmpty || (base == 10 && Text.digitLimit < cs.length) then none
  else
    cs.foldl
      (fun n c => do
        let d ← Json.hexValue? c
        if d < base then pure (base * (← n) + d) else none)
      (some 0)

/-- The number whose places in base sixty are given, the first place first. -/
def sixties (places : List Nat) : Nat :=
  places.foldl (fun n place => 60 * n + place) 0

/-- The whole number of a scalar. -/
def intOf (s : String) : Except Failure Int :=
  let cs := s.toList.filter (· != '_')
  let sign : Int := if cs.head? == some '-' then -1 else 1
  let size : Option Nat :=
    match unsigned cs with
    | '0' :: 'b' :: digits => baseNumber? 2 digits
    | '0' :: 'x' :: digits => baseNumber? 16 digits
    | ['0'] => some 0
    | '0' :: digits => baseNumber? 8 ('0' :: digits)
    | digits =>
      match Text.splitChars ':' digits with
      | [whole] => baseNumber? 10 whole
      | places => (places.mapM (baseNumber? 10)).map sixties
  if (unsigned cs).isEmpty then .error (.shape .noDigit)
  else
    match size with
    | some n => .ok (sign * n)
    | none => refuse s

/-- The floating-point number of a text without sign. -/
def floatOf? (cs : List Char) : Option Float :=
  let whole := cs.takeWhile Json.isDigit
  let rest := cs.dropWhile Json.isDigit
  let (fraction, rest) :=
    match rest with
    | '.' :: more => (more.takeWhile Json.isDigit, more.dropWhile Json.isDigit)
    | _ => ([], rest)
  let (exponent, rest) := Json.readExponent rest
  if (whole.isEmpty && fraction.isEmpty) || !rest.isEmpty then none
  else
    some (Decimal.nearest false (Json.digitsValue (whole ++ fraction))
      (exponent.getD 0 - fraction.length))

/-- The floating-point number of a scalar. -/
def floatOf (s : String) : Except Failure Float :=
  let cs := (s.toList.filter (· != '_')).map Char.toLower
  let negative := cs.head? == some '-'
  let plain := unsigned cs
  let size : Option Float :=
    if plain == ".inf".toList || plain == "inf".toList then some (Float.ofBits 0x7FF0000000000000)
    else if plain == ".nan".toList || plain == "nan".toList then
      some (Float.ofBits 0x7FF8000000000000)
    else
      match Text.splitChars ':' plain with
      | [number] => floatOf? number
      | places =>
        (places.mapM floatOf?).map fun places =>
          (places.reverse.foldl
            (fun (sum, base) place => (sum + place * base, base * 60.0)) ((0.0 : Float), (1.0 : Float))).1
  if cs.isEmpty then .error (.shape .noDigit)
  else
    match size with
    | some x => .ok (if negative then -1.0 * x else x)
    | none => refuse s

/-- The time of a scalar; a day or time of day that does not exist is a failure. -/
def timeOf (s : String) : Except Failure Timestamp :=
  match writtenTime? s.toList with
  | none => .error (.shape (.noMember "NoneType" "groupdict"))
  | some time =>
    let refused (reason : String) : Except Failure Timestamp :=
      .error (.shape (.impossibleTime reason))
    if time.day.year == 0 then refused "year 0 is out of range"
    else if time.day.month == 0 || 12 < time.day.month then refused "month must be in 1..12"
    else if !time.day.isValid then refused "day is out of range for month"
    else
      match time.clock with
      | none => .ok ⟨time.day, none⟩
      | some clock =>
        if 23 < clock.hour then refused "hour must be in 0..23"
        else if 59 < clock.minute then refused "minute must be in 0..59"
        else if 59 < clock.second then refused "second must be in 0..59"
        else if clock.offset.any (fun o => 1440 ≤ o.natAbs) then
          refused "offset must be strictly between a day back and a day ahead"
        else .ok ⟨time.day, some clock⟩

/-- The value of a scalar with a tag. -/
def scalarOf (tag : Tag) (s : String) : Except Failure Scalar :=
  match tag with
  | .null => .ok .null
  | .bool =>
    match truthWords.lookup (Text.lower s) with
    | some b => .ok (.bool b)
    | none => .error (.shape (.unknownWord (Text.lower s)))
  | .int => (intOf s).map .int
  | .float => (floatOf s).map .float
  | .timestamp => (timeOf s).map .time
  | .text => .ok (.text s)
  | .binary =>
    match Text.Base64.decode? (s.toList.filter fun c => !Text.isBlank c) with
    | some bytes => .ok (.binary bytes)
    | none => .error (.malformedDocument "failed to decode base64 data")
  | .sequence => .error (.malformedDocument "expected a sequence node, but found scalar")
  | .mapping => .error (.malformedDocument "expected a mapping node, but found scalar")
  | .merge | .defaultValue | .other _ =>
    .error (.malformedDocument "could not determine a constructor for the tag")

end Reconciler.Yaml
