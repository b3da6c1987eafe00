import BlogSnapshot.Calendar.Moment
import BlogSnapshot.Text.DecimalDigit

/-! Written forms of dates and moments: the ISO form, and the constructor form that stands in
messages.
-/

namespace BlogSnapshot

open Calendar

namespace Calendar

/-- A number in at least `width` decimal places. -/
def padded (width n : Nat) : String :=
  let ds := Nat.toDigits 10 n
  String.ofList (List.replicate (width - ds.length) '0' ++ ds)

/-- A time as hours, minutes and, where a smaller part is not zero, the smaller parts. -/
def offsetText (o : Offset) : String :=
  let n := o.micros.natAbs
  let seconds := n / microsPerSecond
  let micros := n % microsPerSecond
  (if o.micros < 0 then "-" else "+")
    ++ padded 2 (seconds / 3600) ++ ":" ++ padded 2 (seconds / 60 % 60)
    ++ (if seconds % 60 = 0 && micros = 0 then "" else ":" ++ padded 2 (seconds % 60))
    ++ (if micros = 0 then "" else "." ++ padded 6 micros)

end Calendar

namespace Date

/-- The ISO form `2026-01-31`. -/
def iso (d : Date) : String :=
  padded 4 d.year ++ "-" ++ padded 2 d.month ++ "-" ++ padded 2 d.day

/-- The constructor form. -/
def shown (d : Date) : String :=
  "datetime.date(" ++ toString d.year ++ ", " ++ toString d.month ++ ", " ++ toString d.day ++ ")"

end Date

namespace Clock

/-- The ISO form, with a fraction only when it is not zero. -/
def iso (c : Clock) : String :=
  padded 2 c.hour ++ ":" ++ padded 2 c.minute ++ ":" ++ padded 2 c.second
    ++ (if c.micro = 0 then "" else "." ++ padded 6 c.micro)

end Clock

namespace Moment

/-- The ISO form `2026-01-31T12:00:00+00:00`; a moment without offset shows none. -/
def iso (m : Moment) : String :=
  m.date.iso ++ "T" ++ m.clock.iso ++ (m.offset.elim "" offsetText)

/-- The constructor form of an offset. -/
def offsetShown (o : Offset) : String :=
  if o.micros = 0 then "datetime.timezone.utc"
  else "datetime.timezone(" ++ durationText o.micros ++ ")"

/-- The constructor form; seconds and microseconds are left out when nothing follows them. -/
def shown (m : Moment) : String :=
  let c := m.clock
  let parts := [m.date.year, m.date.month, m.date.day, c.hour, c.minute]
    ++ (if c.micro = 0 then (if c.second = 0 then [] else [c.second]) else [c.second, c.micro])
  let zone := m.offset.elim [] fun o => ["tzinfo=" ++ offsetShown o]
  "datetime.datetime(" ++ String.intercalate ", " (parts.map toString ++ zone) ++ ")"

end Moment

end BlogSnapshot
