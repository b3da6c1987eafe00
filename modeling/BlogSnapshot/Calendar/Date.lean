import BlogSnapshot.Calendar.Fault

/-! Dates of the proleptic Gregorian calendar in the years 1 to 9999, and their day numbers.
A date cannot be out of range: the ranges are part of it.
-/

namespace BlogSnapshot

namespace Calendar

def isLeap (year : Nat) : Bool :=
  year % 4 = 0 && (year % 100 ≠ 0 || year % 400 = 0)

/-- The number of days of a month; there is none beyond the twelfth. -/
def daysInMonth (year : Nat) : Nat → Nat
  | 2 => if isLeap year then 29 else 28
  | 4 | 6 | 9 | 11 => 30
  | 1 | 3 | 5 | 7 | 8 | 10 | 12 => 31
  | _ => 0

/-- The number of days before the first day of a year. -/
def daysBeforeYear (year : Nat) : Nat :=
  let y := year - 1
  365 * y + y / 4 - y / 100 + y / 400

/-- The number of days of a year before the first day of a month. -/
def daysBeforeMonth (year : Nat) : Nat → Nat
  | 0 => 0
  | month + 1 => daysBeforeMonth year month + daysInMonth year month

/-- The number of the last day of the year 9999. -/
def lastDayNumber : Nat := 3652059

end Calendar

open Calendar

/-- A day of the calendar. -/
structure Date where
  year : Nat
  month : Nat
  day : Nat
  year_range : 1 ≤ year ∧ year ≤ 9999
  month_range : 1 ≤ month ∧ month ≤ 12
  day_range : 1 ≤ day ∧ day ≤ daysInMonth year month
  deriving DecidableEq, Repr

namespace Date

/-- The date with the given numbers; the first number out of range is reported. -/
def of (year month day : Nat) : Except CalendarFault Date :=
  if hy : 1 ≤ year ∧ year ≤ 9999 then
    if hm : 1 ≤ month ∧ month ≤ 12 then
      if hd : 1 ≤ day ∧ day ≤ daysInMonth year month then
        .ok ⟨year, month, day, hy, hm, hd⟩
      else .error .day
    else .error .month
  else .error (.year year)

/-- The day number, counting the first day of the year 1 as day 1. -/
def dayNumber (d : Date) : Nat :=
  daysBeforeYear d.year + daysBeforeMonth d.year d.month + d.day

/-- The day of the week, from Monday as 0. -/
def weekday (d : Date) : Nat :=
  (d.dayNumber + 6) % 7

/-- Month and day within a year from the count of days before it, trying months in order. -/
def monthDay (year : Nat) (rest : Nat) : Nat → Nat → Nat × Nat
  | 0, month => (month, rest + 1)
  | fuel + 1, month =>
      let len := daysInMonth year month
      if rest < len then (month, rest + 1) else monthDay year (rest - len) fuel (month + 1)

/-- The year that holds a day number, by whole cycles of 400, 100, 4 and 1 years. -/
def yearOf (number : Nat) : Nat :=
  let n := number - 1
  let n400 := n / 146097
  let r := n % 146097
  let n100 := min (r / 36524) 3
  let r := r - n100 * 36524
  let n4 := r / 1461
  let r := r % 1461
  let n1 := min (r / 365) 3
  400 * n400 + 100 * n100 + 4 * n4 + n1 + 1

/-- The date with a day number. -/
def ofDayNumber (number : Int) : Except CalendarFault Date :=
  if 1 ≤ number ∧ number ≤ lastDayNumber then
    let n := number.toNat
    let year := yearOf n
    let (month, day) := monthDay year (n - daysBeforeYear year - 1) 11 1
    of year month day
  else .error .beyondRange

/-- The first day of 1970. -/
def epoch : Date :=
  ⟨1970, 1, 1, by decide, by decide, by decide⟩

end Date

end BlogSnapshot
