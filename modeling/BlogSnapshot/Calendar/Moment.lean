import BlogSnapshot.Calendar.Date

/-! Points in time: a date and a time of day to the microsecond, with or without an offset
from universal time.
-/

namespace BlogSnapshot

open Calendar

/-- A time of day. -/
structure Clock where
  hour : Nat := 0
  minute : Nat := 0
  second : Nat := 0
  micro : Nat := 0
  hour_range : hour < 24 := by omega
  minute_range : minute < 60 := by omega
  second_range : second < 60 := by omega
  micro_range : micro < 1000000 := by omega
  deriving DecidableEq, Repr

namespace Clock

def midnight : Clock := {}

/-- The time of day with the given numbers; the first number out of range is reported. Digits
of a second beyond the sixth are dropped by taking the remainder.
-/
def of (hour minute second micro : Nat) : Except CalendarFault Clock :=
  if hh : hour < 24 then
    if hm : minute < 60 then
      if hs : second < 60 then
        .ok ⟨hour, minute, second, micro % 1000000, hh, hm, hs, Nat.mod_lt _ (by decide)⟩
      else .error .second
    else .error .minute
  else .error .hour

/-- Microseconds since midnight. -/
def micros (c : Clock) : Nat :=
  ((c.hour * 60 + c.minute) * 60 + c.second) * microsPerSecond + c.micro

/-- The time of day that many microseconds after midnight, whole days left aside. -/
def ofMicros (n : Nat) : Clock where
  hour := n / 3600000000 % 24
  minute := n / 60000000 % 60
  second := n / 1000000 % 60
  micro := n % 1000000

end Clock

/-- An offset from universal time in microseconds, less than a day either way. -/
structure Offset where
  micros : Int
  range : -86400000000 < micros ∧ micros < 86400000000
  deriving DecidableEq, Repr

namespace Offset

def utc : Offset := ⟨0, by decide⟩

def of (micros : Int) : Except CalendarFault Offset :=
  if h : -86400000000 < micros ∧ micros < 86400000000 then .ok ⟨micros, h⟩
  else .error (.offset micros)

end Offset

/-- A point in time on a wall clock; without an offset it counts as universal time. -/
structure Moment where
  date : Date
  clock : Clock := .midnight
  offset : Option Offset := none
  deriving DecidableEq, Repr

namespace Moment

/-- Microseconds from the start of the year 1 to the wall clock reading. -/
def wallMicros (m : Moment) : Nat :=
  (m.date.dayNumber - 1) * microsPerDay + m.clock.micros

/-- Microseconds from the start of the year 1 to the moment itself, in universal time. -/
def instant (m : Moment) : Int :=
  m.wallMicros - (m.offset.getD .utc).micros

/-- The instant of the epoch, the start of the year 1970. -/
def epoch : Nat :=
  719162 * microsPerDay

/-- The moment in universal time with the given instant. -/
def ofInstant (micros : Int) : Except CalendarFault Moment := do
  let date ← Date.ofDayNumber (micros.fdiv microsPerDay + 1)
  pure ⟨date, Clock.ofMicros (micros.fmod microsPerDay).toNat, some .utc⟩

/-- The same moment in universal time, which may leave the calendar. -/
def toUtc (m : Moment) : Except CalendarFault Moment :=
  match m.offset with
  | none => .ok { m with offset := some .utc }
  | some o =>
      if o.micros = 0 then .ok { m with offset := some .utc }
      else ofInstant m.instant

end Moment

end BlogSnapshot
