import Shortlink.Timestamp.Basic

/-!
# Counting from the epoch

The point in time that lies a number of microseconds after the beginning of the year 1970.

## Contents

- `dateOfDay?`: the date of a day that is counted from the start of year one.
- `Timestamp.ofEpoch?`: the point in time.
-/

namespace Shortlink

/-- The year in which a day lies that is counted from the start of year one. -/
def yearOfDay (day : Nat) : Nat :=
  let year := day * 400 / 146097 + 1
  if day < daysBeforeYear year then year - 1
  else if daysBeforeYear (year + 1) ≤ day then year + 1
  else year

/-- Month and day of the month of a day of the year, from the first of the months given on. -/
def monthAndDay (year : Nat) : List Nat → Nat → Nat × Nat
  | [], day => (12, day + 1)
  | month :: months, day =>
    if day < daysInMonth year month then (month, day + 1)
    else monthAndDay year months (day - daysInMonth year month)

/-- The date of a day that is counted from the start of year one. -/
def dateOfDay? (day : Nat) : Option Date :=
  let year := yearOfDay day
  let (month, day) := monthAndDay year (List.range' 1 12) (day - daysBeforeYear year)
  Date.of? year month day

/-- The number of days from the start of year one to that of the year 1970. -/
def epochDay : Nat := daysBeforeYear 1970

/-- The point in time a number of microseconds after the beginning of 1970. -/
def Timestamp.ofEpoch? (microseconds : Nat) : Option Timestamp := do
  let seconds := microseconds / 1000000
  let date ← dateOfDay? (epochDay + seconds / 86400)
  let clock ← Clock.of? (seconds / 3600 % 24) (seconds / 60 % 60) (seconds % 60)
    (microseconds % 1000000)
  return ⟨date, clock, none⟩

end Shortlink
