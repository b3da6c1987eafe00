import BlogSnapshot.Calendar.Moment
import BlogSnapshot.Proofs.Calendar.DayNumber
import Mathlib.Data.Int.Init

/-! Moments in universal time. A moment has a universal time exactly if its instant lies in the
calendar, and that is the moment with the same instant.
-/

namespace BlogSnapshot

open Calendar

namespace Clock

theorem micros_ofMicros {n : Nat} (range : n < microsPerDay) : (ofMicros n).micros = n := by
  simp only [microsPerDay, microsPerSecond] at range
  simp only [micros, ofMicros, microsPerSecond]
  omega

theorem micros_lt (c : Clock) : c.micros < microsPerDay := by
  have hour := c.hour_range
  have minute := c.minute_range
  have second := c.second_range
  have micro := c.micro_range
  simp only [micros, microsPerDay, microsPerSecond]
  omega

end Clock

namespace Moment

/-- The number of microseconds of the calendar. -/
def calendarMicros : Nat :=
  lastDayNumber * microsPerDay

/-- The instant of a moment is one of the calendar. -/
def InCalendar (m : Moment) : Prop :=
  0 ≤ m.instant ∧ m.instant < calendarMicros

theorem wallMicros_lt (m : Moment) : m.wallMicros < calendarMicros := by
  have day := m.date.dayNumber_range
  have time := m.clock.micros_lt
  have whole : (m.date.dayNumber - 1 + 1) * microsPerDay ≤ lastDayNumber * microsPerDay :=
    Nat.mul_le_mul_right _ (by omega)
  rw [Nat.succ_mul] at whole
  simp only [wallMicros, calendarMicros]
  omega

/-- The moment in universal time some days and microseconds after the start of the calendar. -/
theorem exists_ofInstant_of_parts {days micros : Nat} (inCalendar : days < lastDayNumber)
    (inDay : micros < microsPerDay)
    : ∃ u,
        ofInstant (days * microsPerDay + micros : Nat) = .ok u
        ∧ u.offset = some .utc
        ∧ u.instant = (days * microsPerDay + micros : Nat) := by
  have positive : 0 < microsPerDay := by decide
  have quotient : (days * microsPerDay + micros) / microsPerDay = days := by
    rw [Nat.mul_comm, Nat.mul_add_div positive, Nat.div_eq_of_lt inDay, Nat.add_zero]
  have remainder : (days * microsPerDay + micros) % microsPerDay = micros := by
    rw [Nat.mul_comm, Nat.mul_add_mod, Nat.mod_eq_of_lt inDay]
  obtain ⟨d, found, number⟩ := Date.exists_ofDayNumber_eq (n := (days : Int) + 1) (by omega)
  refine ⟨⟨d, Clock.ofMicros micros, some .utc⟩, ?_, rfl, ?_⟩
  · simp only [ofInstant, Int.fdiv_eq_ediv_of_nonneg _ (Int.natCast_nonneg microsPerDay),
      Int.fmod_eq_emod_of_nonneg _ (Int.natCast_nonneg microsPerDay), ← Int.natCast_ediv,
      ← Int.natCast_emod, quotient, remainder, found, Int.toNat_natCast]
    rfl
  · have dayBefore : d.dayNumber - 1 = days := by omega
    simp only [instant, wallMicros, Clock.micros_ofMicros inDay, dayBefore, Option.getD_some,
      Offset.utc]
    omega

/-- An instant of the calendar has a moment in universal time, of which it is the instant. -/
theorem exists_ofInstant_eq {t : Int} (range : 0 ≤ t ∧ t < calendarMicros)
    : ∃ u, ofInstant t = .ok u ∧ u.offset = some .utc ∧ u.instant = t := by
  obtain ⟨micros, rfl⟩ := Int.eq_ofNat_of_zero_le range.1
  have positive : 0 < microsPerDay := by decide
  have before : micros < lastDayNumber * microsPerDay := Int.ofNat_lt.mp range.2
  rw [← Nat.div_add_mod' micros microsPerDay]
  exact exists_ofInstant_of_parts ((Nat.div_lt_iff_lt_mul positive).mpr before)
    (Nat.mod_lt micros positive)

theorem ofInstant_eq_error {t : Int} (beyond : ¬ (0 ≤ t ∧ t < calendarMicros))
    : ofInstant t = .error .beyondRange := by
  have positive : (0 : Int) < microsPerDay := by decide
  have outside : ¬ (1 ≤ t.fdiv microsPerDay + 1 ∧ t.fdiv microsPerDay + 1 ≤ lastDayNumber) := by
    rintro ⟨first, last⟩
    rw [Int.fdiv_eq_ediv_of_nonneg _ positive.le] at first last
    refine beyond ⟨?_, ?_⟩
    · exact (Int.ediv_nonneg_iff_of_pos positive).mp (by omega)
    · have before : t / microsPerDay < lastDayNumber := by omega
      rw [Int.ediv_lt_iff_lt_mul positive] at before
      simpa [calendarMicros] using before
  simp only [ofInstant, Date.ofDayNumber_eq_error outside]
  rfl

-----------------------------------------------------------------------------------------
-- Universal time
-----------------------------------------------------------------------------------------

variable {m u : Moment}

/-- The offset that a moment counts as having. -/
def shift (m : Moment) : Int :=
  (m.offset.getD .utc).micros

theorem instant_eq (m : Moment) : m.instant = m.wallMicros - m.shift :=
  rfl

/-- The universal time of a moment that has no offset, or one of zero, is what its clock shows. -/
theorem toUtc_of_unshifted (unshifted : m.shift = 0)
    : m.toUtc = .ok { m with offset := some .utc } := by
  unfold toUtc
  cases offset : m.offset with
  | none => rfl
  | some o =>
      have zero : o.micros = 0 := by simpa [shift, offset] using unshifted
      simp [zero]

/-- The universal time of a moment with another offset is that of its instant. -/
theorem toUtc_of_shifted (shifted : m.shift ≠ 0) : m.toUtc = ofInstant m.instant := by
  unfold toUtc
  cases offset : m.offset with
  | none => simp [shift, offset, Offset.utc] at shifted
  | some o =>
      have nonzero : o.micros ≠ 0 := by simpa [shift, offset] using shifted
      simp [nonzero]

/-- A moment of the calendar has a universal time with the same instant. -/
theorem InCalendar.exists_toUtc_eq (inCalendar : m.InCalendar)
    : ∃ u, m.toUtc = .ok u ∧ u.offset = some .utc ∧ u.instant = m.instant := by
  by_cases unshifted : m.shift = 0
  case pos =>
    refine ⟨_, toUtc_of_unshifted unshifted, rfl, ?_⟩
    rw [instant_eq m, unshifted]
    rfl
  case neg =>
    rw [toUtc_of_shifted unshifted]
    exact exists_ofInstant_eq inCalendar

theorem toUtc_eq_error (beyond : ¬ m.InCalendar) : m.toUtc = .error .beyondRange := by
  have shifted : m.shift ≠ 0 := by
    intro unshifted
    refine beyond ⟨?_, ?_⟩ <;> rw [instant_eq, unshifted]
    · omega
    · have := m.wallMicros_lt
      omega
  rw [toUtc_of_shifted shifted]
  exact ofInstant_eq_error beyond

theorem of_toUtc (found : m.toUtc = .ok u)
    : m.InCalendar ∧ u.offset = some .utc ∧ u.instant = m.instant := by
  by_cases inCalendar : m.InCalendar
  case pos =>
    obtain ⟨v, eq, offset, instant⟩ := inCalendar.exists_toUtc_eq
    cases found.symm.trans eq
    exact ⟨inCalendar, offset, instant⟩
  case neg => cases found.symm.trans (toUtc_eq_error inCalendar)

/-- Moments that show the same date and time and count as having the same offset have the same
universal time.
-/
theorem toUtc_congr {n : Moment} (date : m.date = n.date) (clock : m.clock = n.clock)
    (shift : m.shift = n.shift)
    : m.toUtc = n.toUtc := by
  have instant : m.instant = n.instant := by rw [instant_eq, instant_eq, shift, wallMicros,
    wallMicros, date, clock]
  by_cases unshifted : m.shift = 0
  case pos =>
    rw [toUtc_of_unshifted unshifted, toUtc_of_unshifted (shift ▸ unshifted), date, clock]
  case neg => rw [toUtc_of_shifted unshifted, toUtc_of_shifted (shift ▸ unshifted), instant]

end Moment

end BlogSnapshot
