/-!
# Calendar days and times of day

Days of the proleptic Gregorian calendar, times of day with microseconds and an optional offset from
universal time, and their written forms.
-/

namespace Reconciler

/-- A calendar day. -/
structure Day where
  /-- The year, from 1 to 9999. -/
  year : Nat
  /-- The month, from 1 to 12. -/
  month : Nat
  /-- The day of the month, from 1. -/
  day : Nat
deriving DecidableEq, Repr

namespace Day

/-- The year has a leap day. -/
def isLeap (year : Nat) : Bool :=
  year % 4 == 0 && (year % 100 != 0 || year % 400 == 0)

/-- The number of days of a month. -/
def monthLength (year month : Nat) : Nat :=
  if month == 2 then (if isLeap year then 29 else 28)
  else if month == 4 || month == 6 || month == 9 || month == 11 then 30
  else 31

/-- The day exists. -/
def isValid (d : Day) : Bool :=
  1 ≤ d.year && d.year ≤ 9999 && 1 ≤ d.month && d.month ≤ 12 && 1 ≤ d.day &&
    d.day ≤ monthLength d.year d.month

/-- The day that lies a number of days after 1 March of the year 0. -/
def ofMarchDays (days : Nat) : Day :=
  let era := days / 146097
  let dayOfEra := days % 146097
  let yearOfEra := (dayOfEra - dayOfEra / 1460 + dayOfEra / 36524 - dayOfEra / 146096) / 365
  let dayOfYear := dayOfEra - (365 * yearOfEra + yearOfEra / 4 - yearOfEra / 100)
  let shifted := (5 * dayOfYear + 2) / 153
  let month := if shifted < 10 then shifted + 3 else shifted - 9
  ⟨yearOfEra + 400 * era + (if month ≤ 2 then 1 else 0), month,
    dayOfYear - (153 * shifted + 2) / 5 + 1⟩

end Day

/-- A number with zeros in front, up to a width. -/
def padded (width n : Nat) : String :=
  let digits := toString n
  String.ofList (List.replicate (width - digits.length) '0') ++ digits

/-- A time of day. -/
structure Clock where
  /-- The hour, from 0 to 23. -/
  hour : Nat
  /-- The minute, from 0 to 59. -/
  minute : Nat
  /-- The second, from 0 to 59. -/
  second : Nat
  /-- The millionths of a second. -/
  micro : Nat
  /-- The offset from universal time in minutes, when one is known. -/
  offset : Option Int
deriving DecidableEq, Repr

/-- A day with a time, or a day alone. -/
structure Timestamp where
  /-- The day. -/
  day : Day
  /-- The time on that day. -/
  clock : Option Clock
deriving DecidableEq, Repr

namespace Day

/-- The written form of a day. -/
def text (d : Day) : String :=
  padded 4 d.year ++ "-" ++ padded 2 d.month ++ "-" ++ padded 2 d.day

end Day

namespace Clock

/-- The written form of an offset. -/
def offsetText (minutes : Int) : String :=
  (if minutes < 0 then "-" else "+") ++ padded 2 (minutes.natAbs / 60) ++ ":" ++
    padded 2 (minutes.natAbs % 60)

/-- The written form of a time of day; a fraction shows all six places. -/
def text (c : Clock) : String :=
  padded 2 c.hour ++ ":" ++ padded 2 c.minute ++ ":" ++ padded 2 c.second ++
    (if c.micro == 0 then "" else "." ++ padded 6 c.micro) ++ (c.offset.map offsetText).getD ""

end Clock

namespace Timestamp

/-- The written form with a separator between the day and the time. -/
def textWith (separator : String) (t : Timestamp) : String :=
  t.day.text ++ (t.clock.map fun c => separator ++ c.text).getD ""

/-- The written form of a timestamp. -/
def text (t : Timestamp) : String :=
  t.textWith " "

/-- The moment that lies a number of microseconds after the start of 1970, in universal time. -/
def ofEpochMicros (micros : Int) : Timestamp :=
  let days := Int.fdiv micros 86400000000
  let rest := (Int.fmod micros 86400000000).toNat
  let seconds := rest / 1000000
  ⟨Day.ofMarchDays (days + 719468).toNat,
    some ⟨seconds / 3600, seconds / 60 % 60, seconds % 60, rest % 1000000, some 0⟩⟩

/-- The interchange form, with the letter T between the day and the time. -/
def interchange (t : Timestamp) : String :=
  t.textWith "T"

end Timestamp

end Reconciler
