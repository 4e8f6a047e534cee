import Shortlink.Timestamp.Basic

/-!
# Reading points in time

Dates are read as year, month and day or as year, week and day of the week, with hyphens or
without. After one character of any kind a time of day may follow, with colons or without, cut
short after any part and with decimals after a point or a comma, and after it a distance to
universal time. One more character, or more decimals and whatever follows them, may stand before
the distance without being looked at.

The end of a text is looked at as if a null character stood there.

## Contents

- `dateLength`: where the date ends.
- `readDate?`: dates.
- `readClock?`: a time of day or a distance, up to a given point.
- `Timestamp.read?`: all together.
-/

namespace Shortlink.Timestamp

open Text

/-! ## Pieces -/

/-- The character at a place, the null character behind the end. -/
def charAt (s : List Char) (i : Nat) : Char :=
  s[i]?.getD '\x00'

/-- The number that the first `count` characters denote, all of which must be digits. -/
def leadingNumber? (count : Nat) (s : List Char) : Option (Nat × List Char) :=
  let front := s.take count
  if front.length = count then
    (front.mapM asciiDigit?).map fun ds => (natOfDigits 0 ds, s.drop count)
  else none

/-- A digit of ASCII. -/
def isAsciiDigit (c : Char) : Bool :=
  (asciiDigit? c).isSome

/-! ## Dates -/

/-- The number of characters that belong to the date. Week dates are told from what follows them
by their hyphens or by the number of digits. -/
def dateLength (s : List Char) : Nat :=
  let length := s.length
  if length = 7 then 7
  else if charAt s 4 = '-' then
    if charAt s 5 = 'W' then
      if 8 < length ∧ charAt s 8 = '-' then
        if 10 < length ∧ isAsciiDigit (charAt s 10) then 8 else 10
      else 8
    else 10
  else if charAt s 4 = 'W' then
    let run := 7 + ((s.drop 7).takeWhile isAsciiDigit).length
    if run < 9 then run
    else if run % 2 = 0 then 7 else 8
  else 8

/-- The date `days` days after the first of the first month in a list of months of a year. -/
def dateAmong? (year days : Nat) : List Nat → Option Date
  | [] => none
  | month :: months =>
    if days < daysInMonth year month then Date.of? year month (days + 1)
    else dateAmong? year (days - daysInMonth year month) months

/-- The number of days of a year. -/
def daysInYear (year : Nat) : Nat :=
  if isLeapYear year then 366 else 365

/-- The date `days` days after the first day of a year, in that year or the next. -/
def dateAfter? (year days : Nat) : Option Date :=
  let months := [1, 2, 3, 4, 5, 6, 7, 8, 9, 10, 11, 12]
  if days < daysInYear year then dateAmong? year days months
  else dateAmong? (year + 1) (days - daysInYear year) months

/-- The day of the week on which a year starts, Monday being zero. -/
def firstWeekday (year : Nat) : Nat :=
  daysBeforeYear year % 7

/-- A year has a week 53 if it starts on a Thursday, or on a Wednesday in a leap year. -/
def hasLongestWeek (year : Nat) : Bool :=
  firstWeekday year == 3 || (firstWeekday year == 2 && isLeapYear year)

/-- The date of a day in a week. The first week of a year is the one that holds its first
Thursday. -/
def weekDate? (year week day : Nat) : Option Date :=
  if year = 0 ∨ week = 0 ∨ 53 < week ∨ (week = 53 ∧ hasLongestWeek year = false) then none
  else if day = 0 ∨ 7 < day then none
  else
    let first := firstWeekday year
    let days : Int := 7 * (week - 1) + (day - 1) - first + (if 3 < first then 7 else 0)
    if 0 ≤ days then dateAfter? year days.toNat
    else dateAfter? (year - 1) (daysInYear (year - 1) + days).toNat

/-- The date in front of a text, of which `length` characters may belong to it. -/
def readDate? (s : List Char) (length : Nat) : Option Date := do
  let (year, rest) ← leadingNumber? 4 s
  let hyphens := charAt rest 0 == '-'
  let rest := if hyphens then rest.drop 1 else rest
  if charAt rest 0 = 'W' then
    let (week, rest) ← leadingNumber? 2 (rest.drop 1)
    if (if hyphens then 8 else 7) < length then
      if hyphens && charAt rest 0 != '-' then none
      else
        let (day, _) ← leadingNumber? 1 (if hyphens then rest.drop 1 else rest)
        weekDate? year week day
    else weekDate? year week 1
  else
    let (month, rest) ← leadingNumber? 2 rest
    if hyphens && charAt rest 0 != '-' then none
    else
      let (day, _) ← leadingNumber? 2 (if hyphens then rest.drop 1 else rest)
      Date.of? year month day

/-! ## Times of day and distances -/

/-- Hours, minutes, seconds and microseconds, in any number. -/
structure Reading where
  hour : Nat := 0
  minute : Nat := 0
  second : Nat := 0
  microsecond : Nat := 0

/-- Decimals of a second: six of them count, and a run of more is passed over. The Boolean tells
that something else follows. -/
def readDecimals? (s : List Char) (length : Nat) : Option (Nat × Bool) := do
  let count := min length 6
  let (n, rest) ← leadingNumber? count s
  return (n * Nat.pow 10 (6 - count), charAt (rest.dropWhile isAsciiDigit) 0 != '\x00')

/-- The part with the given number, and after it whatever belongs to the reading. `length` tells
how many characters are left up to the end of the reading. -/
def readParts? (colons : Bool) (s : List Char) (length : Nat) :
    Nat → Option (List Nat × Nat × Bool)
  | 0 => do
    let (micro, more) ← readDecimals? s length
    return ([], micro, more)
  | parts + 1 => do
    let (n, rest) ← leadingNumber? 2 s
    let c := charAt rest 0
    if length ≤ 3 then
      if length = 3 ∧ 0x80 ≤ c.toNat then none else return ([n], 0, c != '\x00')
    else if colons && c == ':' then
      let (ns, micro, more) ← readParts? colons (rest.drop 1) (length - 3) parts
      return (n :: ns, micro, more)
    else if c = '.' ∨ c = ',' then
      let (micro, more) ← readDecimals? (rest.drop 1) (length - 3)
      return ([n], micro, more)
    else if colons then none
    else
      let (ns, micro, more) ← readParts? colons rest (length - 2) parts
      return (n :: ns, micro, more)

/-- The reading in the first `length` characters of a text, and whether something follows it. -/
def readClock? (s : List Char) (length : Nat) : Option (Reading × Bool) := do
  let (ns, micro, more) ← readParts? (charAt s 2 == ':') s length 3
  return (⟨ns.getD 0 0, ns.getD 1 0, ns.getD 2 0, micro⟩, more)

/-- What a distance may begin with. -/
def startsOffset (c : Char) : Bool :=
  c == '+' || c == '-' || c == 'Z'

/-- The distance that a text denotes. -/
def readOffset? (s : List Char) : Option Offset :=
  match s with
  | 'Z' :: rest => if charAt rest 0 = '\x00' then Offset.of? 0 else none
  | sign :: rest => do
    let (r, more) ← readClock? rest rest.length
    if more then none
    else
      let seconds := 3600 * r.hour + 60 * r.minute + r.second
      let n : Int := if seconds = 0 then 0 else 1000000 * seconds + r.microsecond
      Offset.of? (if sign = '-' then -n else n)
  | [] => none

/-- Time of day and distance in the part after the date. -/
def readTime? (s : List Char) : Option (Clock × Option Offset) := do
  let length := (s.takeWhile fun c => !startsOffset c).length
  let (r, more) ← readClock? s length
  let clock ← Clock.of? r.hour r.minute r.second r.microsecond
  if length = s.length then
    if more then none else return (clock, none)
  else
    let offset ← readOffset? (s.drop length)
    return (clock, some offset)

/-- The point in time that a text denotes. -/
def readChars? (s : List Char) : Option Timestamp := do
  if s.length < 7 then none
  else
    let length := dateLength s
    let date ← readDate? s length
    if s.length ≤ length then return ⟨date, Clock.midnight, none⟩
    else
      let (clock, offset) ← readTime? (s.drop (length + 1))
      return ⟨date, clock, offset⟩

/-- The point in time that a text denotes. -/
def read? (text : String) : Option Timestamp :=
  readChars? text.toList

end Shortlink.Timestamp
