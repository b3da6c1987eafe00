import BlogSnapshot.Proofs.Calendar.NativeStamp
import BlogSnapshot.Proofs.Calendar.UniversalTime
import BlogSnapshot.Proofs.Steps

/-! The moments that a written timestamp denotes. The day or moment of its parts is one of them, and
so is what it is read as where it is a written date or a written date and time. They all have the
same universal time.
-/

namespace BlogSnapshot

open Calendar

theorem Date.of_of {year month day : Nat} {d : Date} (found : Date.of year month day = .ok d)
    : d.year = year ∧ d.month = month ∧ d.day = day := by
  unfold Date.of at found
  split at found
  case isFalse => cases found
  case isTrue =>
    split at found
    case isFalse => cases found
    case isTrue =>
      split at found
      case isFalse => cases found
      case isTrue =>
        cases found
        exact ⟨rfl, rfl, rfl⟩

theorem Clock.micros_of_of {hour minute second micro : Nat} {c : Clock}
    (found : Clock.of hour minute second micro = .ok c)
    : c.micros = ((hour * 60 + minute) * 60 + second) * microsPerSecond + micro % 1000000 := by
  unfold Clock.of at found
  split at found
  case isFalse => cases found
  case isTrue =>
    split at found
    case isFalse => cases found
    case isTrue =>
      split at found
      case isFalse => cases found
      case isTrue =>
        cases found
        rfl

theorem Offset.micros_of_of {micros : Int} {o : Offset} (found : Offset.of micros = .ok o)
    : o.micros = micros := by
  unfold Offset.of at found
  split at found
  case isFalse => cases found
  case isTrue =>
    cases found
    rfl

namespace Calendar

/-- A moment shows the date and the time of day that are written, midnight for a bare date, and
counts as having the offset that is written.
-/
inductive WrittenStamp.Denotes (w : WrittenStamp) : Moment → Prop
  | bare {d : Date} (noTime : w.time = none)
      (date : Date.of w.year.number w.month.number w.day.number = .ok d)
      : Denotes w { date := d }
  | atTime {t : WrittenTime} {d : Date} {c : Clock} {o : Option Offset} (time : w.time = some t)
      (date : Date.of w.year.number w.month.number w.day.number = .ok d)
      (clock : Clock.of t.hour.number t.minute.number t.second.number t.micros = .ok c)
      (shift : (o.getD .utc).micros = t.shift)
      : Denotes w { date := d, clock := c, offset := o }

namespace WrittenStamp.Denotes

variable {w : WrittenStamp} {m n : Moment}

/-- A moment that is denoted is the one at the instant that is written. -/
theorem instant_eq (denotes : w.Denotes m) : m.instant = w.instant := by
  have days {d : Date} (date : Date.of w.year.number w.month.number w.day.number = .ok d)
      : d.dayNumber - 1 = w.days := by
    obtain ⟨year, month, day⟩ := Date.of_of date
    rw [Date.dayNumber, year, month, day, WrittenStamp.days]
  cases denotes with
  | bare noTime date =>
      rw [Moment.instant, Moment.wallMicros, days date, WrittenStamp.instant, noTime]
      simp [Clock.midnight, Clock.micros, Offset.utc]
  | @atTime t _ _ _ time date clock shift =>
      have small : t.micros < 1000000 := by
        unfold WrittenTime.micros
        cases t.fraction with
        | none => exact Nat.zero_lt_of_lt (Nat.lt_succ_self _)
        | some ds => exact ds.micros_lt
      rw [Moment.instant, Moment.wallMicros, days date, Clock.micros_of_of clock, shift,
        WrittenStamp.instant, time, Nat.mod_eq_of_lt small]
      simp only [Option.elim_some, WrittenTime.clockMicros]
      push_cast
      ring

/-- The moments that are denoted have the same universal time. -/
theorem toUtc_eq (first : w.Denotes m) (second : w.Denotes n) : m.toUtc = n.toUtc := by
  cases first with
  | bare noTime date =>
      cases second with
      | bare _ date' =>
          cases Except.ok.inj (date.symm.trans date')
          rfl
      | atTime time => cases noTime.symm.trans time
  | atTime time date clock shift =>
      cases second with
      | bare noTime => cases noTime.symm.trans time
      | atTime time' date' clock' shift' =>
          cases Option.some.inj (time.symm.trans time')
          cases Except.ok.inj (date.symm.trans date')
          cases Except.ok.inj (clock.symm.trans clock')
          exact Moment.toUtc_congr rfl rfl (shift.trans shift'.symm)

end WrittenStamp.Denotes

/-- The moment of a day, its midnight, or of a moment. -/
def Stamp.toMoment : Stamp → Moment
  | .date d => { date := d }
  | .moment m => m

theorem micros_of_offsetOf {minutes : Option Int} {o : Option Offset}
    (found : offsetOf minutes = .ok o)
    : (o.getD .utc).micros = minutes.elim 0 fun n => n * 60 * microsPerSecond := by
  cases minutes with
  | none =>
      cases found
      rfl
  | some n =>
      obtain ⟨offset, of, rfl⟩ := (map_eq_ok_iff _ _ _).mp found
      exact Offset.micros_of_of of

theorem WrittenTime.shift_eq (t : WrittenTime)
    : t.shift = (t.zone.map (·.2.minutes)).elim 0 fun n => n * 60 * microsPerSecond := by
  unfold shift
  cases t.zone <;> rfl

/-- The day or moment of the parts of a written timestamp is denoted by it. -/
theorem denotes_of_stamp {w : WrittenStamp} {st : Stamp} (found : w.parts.stamp = .ok st)
    : w.Denotes st.toMoment := by
  unfold NativeParts.stamp at found
  split at found
  case h_1 noTime =>
    obtain ⟨d, date, rfl⟩ := (map_eq_ok_iff _ _ _).mp found
    exact .bare (Option.map_eq_none_iff.mp noTime) date
  case h_2 p parts =>
    obtain ⟨t, time, rfl⟩ := Option.map_eq_some_iff.mp parts
    obtain ⟨o, offset, found⟩ := (bind_eq_ok_iff _ _ _).mp found
    obtain ⟨d, date, found⟩ := (bind_eq_ok_iff _ _ _).mp found
    obtain ⟨c, clock, found⟩ := (bind_eq_ok_iff _ _ _).mp found
    cases found
    have fraction : sixDigits (t.fraction.elim [] Digits.values) = t.micros := by
      unfold WrittenTime.micros
      cases t.fraction with
      | none => rfl
      | some ds => exact sixDigits_values ds
    rw [WrittenTime.parts, fraction] at clock
    exact .atTime time date clock ((micros_of_offsetOf offset).trans t.shift_eq.symm)

end Calendar

end BlogSnapshot
