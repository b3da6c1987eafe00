/-! Why a date, a time of day or an offset cannot exist.
-/

namespace BlogSnapshot

/-- The part of a point in time that is out of range. An offset is given in microseconds. -/
inductive CalendarFault
  | year (value : Nat)
  | month
  | day
  | hour
  | minute
  | second
  | offset (micros : Int)
  | beyondRange
  deriving DecidableEq, Repr

namespace Calendar

def microsPerSecond : Nat := 1000000

def microsPerDay : Nat := 86400 * microsPerSecond

/-- A length of time as whole days, seconds of a day and microseconds of a second; only the
days can be negative, and parts that are zero are left out.
-/
def durationText (micros : Int) : String :=
  let days := micros.fdiv microsPerDay
  let rest := (micros.fmod microsPerDay).toNat
  let seconds := rest / microsPerSecond
  let micros := rest % microsPerSecond
  let parts :=
    (if days = 0 then [] else ["days=" ++ toString days])
    ++ (if seconds = 0 then [] else ["seconds=" ++ toString seconds])
    ++ (if micros = 0 then [] else ["microseconds=" ++ toString micros])
  "datetime.timedelta(" ++ (if parts.isEmpty then "0" else String.intercalate ", " parts) ++ ")"

end Calendar

/-- The wording of a calendar fault. -/
def CalendarFault.message : CalendarFault → String
  | year value => "year " ++ toString value ++ " is out of range"
  | month => "month must be in 1..12"
  | day => "day is out of range for month"
  | hour => "hour must be in 0..23"
  | minute => "minute must be in 0..59"
  | second => "second must be in 0..59"
  | offset micros =>
      "offset must be a timedelta strictly between -timedelta(hours=24) and "
        ++ "timedelta(hours=24), not " ++ Calendar.durationText micros ++ "."
  | beyondRange => "date value out of range"

end BlogSnapshot
