import Shortlink.Text.Digits

/-!
# Points in time

A calendar date, a time of day down to the microsecond, and perhaps the distance to universal time.
The types hold only dates that exist.

## Contents

- `isLeapYear`, `daysInMonth`, `daysBeforeYear`: the calendar.
- `Date`, `Clock`, `Offset`, `Timestamp`.
- `Timestamp.text`: the written form.
-/

namespace Shortlink

open Text

/-! ## The calendar -/

/-- Every fourth year, except centuries that are not divisible by four hundred. -/
def isLeapYear (year : Nat) : Bool :=
  year % 4 == 0 && (year % 100 != 0 || year % 400 == 0)

/-- The number of days of a month. -/
def daysInMonth (year month : Nat) : Nat :=
  if month = 2 then if isLeapYear year then 29 else 28
  else if month = 4 ∨ month = 6 ∨ month = 9 ∨ month = 11 then 30
  else 31

/-- The number of days before the first day of a year, counted from the start of year one. -/
def daysBeforeYear (year : Nat) : Nat :=
  let y := year - 1
  365 * y + y / 4 - y / 100 + y / 400

/-! ## Types -/

/-- A day of the years 1 to 9999. -/
structure Date where
  year : Nat
  month : Nat
  day : Nat
  valid : 1 ≤ year ∧ year ≤ 9999 ∧ 1 ≤ month ∧ month ≤ 12 ∧ 1 ≤ day ∧ day ≤ daysInMonth year month
deriving DecidableEq

/-- The date, if it exists. -/
def Date.of? (year month day : Nat) : Option Date :=
  if h : 1 ≤ year ∧ year ≤ 9999 ∧ 1 ≤ month ∧ month ≤ 12 ∧ 1 ≤ day ∧ day ≤ daysInMonth year month
  then some ⟨year, month, day, h⟩ else none

/-- A time of day. -/
structure Clock where
  hour : Nat
  minute : Nat
  second : Nat
  microsecond : Nat
  valid : hour < 24 ∧ minute < 60 ∧ second < 60 ∧ microsecond < 1000000
deriving DecidableEq

/-- The time of day, if it exists. -/
def Clock.of? (hour minute second microsecond : Nat) : Option Clock :=
  if h : hour < 24 ∧ minute < 60 ∧ second < 60 ∧ microsecond < 1000000
  then some ⟨hour, minute, second, microsecond, h⟩ else none

/-- Midnight. -/
def Clock.midnight : Clock where
  hour := 0
  minute := 0
  second := 0
  microsecond := 0
  valid := by decide

/-- A distance to universal time in microseconds: less than a day, and none or at least a second. -/
structure Offset where
  microseconds : Int
  valid : microseconds.natAbs < 86400000000 ∧
    (microseconds = 0 ∨ 1000000 ≤ microseconds.natAbs)
deriving DecidableEq

/-- The distance, if it is in range; what is shorter than a second counts as none. -/
def Offset.of? (microseconds : Int) : Option Offset :=
  if h : microseconds.natAbs < 86400000000 ∧
      (microseconds = 0 ∨ 1000000 ≤ microseconds.natAbs) then some ⟨microseconds, h⟩
  else if microseconds.natAbs < 1000000 then some ⟨0, by decide⟩
  else none

/-- A point in time. -/
structure Timestamp where
  date : Date
  clock : Clock
  offset : Option Offset
deriving DecidableEq

/-! ## Written form -/

/-- Hours, minutes and seconds of a time of day, microseconds only if there are any. -/
def Clock.chars (t : Clock) : List Char :=
  padded 2 t.hour ++ ':' :: padded 2 t.minute ++ ':' :: padded 2 t.second
    ++ (if t.microsecond = 0 then [] else '.' :: padded 6 t.microsecond)

/-- Year, month and day of a date. -/
def Date.chars (d : Date) : List Char :=
  padded 4 d.year ++ '-' :: padded 2 d.month ++ '-' :: padded 2 d.day

/-- Sign, hours and minutes of a distance, seconds and microseconds only if there are any. -/
def Offset.chars (o : Offset) : List Char :=
  let n := o.microseconds.natAbs
  let micro := n % 1000000
  let seconds := n / 1000000
  (if o.microseconds < 0 then '-' else '+') :: padded 2 (seconds / 3600)
    ++ ':' :: padded 2 (seconds / 60 % 60)
    ++ (if seconds % 60 = 0 ∧ micro = 0 then [] else ':' :: padded 2 (seconds % 60))
    ++ (if micro = 0 then [] else '.' :: padded 6 micro)

/-- Date and time of day with a `T` in between, and the distance if it is known. -/
def Timestamp.chars (t : Timestamp) : List Char :=
  t.date.chars ++ 'T' :: t.clock.chars ++
    match t.offset with
    | none => []
    | some o => o.chars

/-- The written form as a text. -/
def Timestamp.text (t : Timestamp) : String :=
  String.ofList t.chars

end Shortlink
