import BlogSnapshot.Calendar.Date
import Mathlib.Order.Monotone.Basic

/-! Dates and their day numbers. Every number from that of the first day of the year 1 to that of
the last day of the year 9999 is the number of the date that is found for it, and the number of
every date is one of these.
-/

namespace BlogSnapshot

namespace Calendar

-----------------------------------------------------------------------------------------
-- Years in whole cycles
-----------------------------------------------------------------------------------------

/-- The years before a year, in whole cycles of 400, 100, 4 and 1 years. -/
structure Cycles where
  of400 : Nat
  of100 : Nat
  of4 : Nat
  of1 : Nat
  of100_le : of100 ≤ 3
  of4_le : of4 ≤ 24
  of1_le : of1 ≤ 3

namespace Cycles

/-- The year that comes after the cycles. -/
def year (c : Cycles) : Nat :=
  400 * c.of400 + 100 * c.of100 + 4 * c.of4 + c.of1 + 1

/-- The number of days of the cycles. -/
def days (c : Cycles) : Nat :=
  146097 * c.of400 + 36524 * c.of100 + 1461 * c.of4 + 365 * c.of1

/-- A year that is divisible by 4, and by 400 if it is by 100. -/
def BeforeLeap (c : Cycles) : Prop :=
  c.of1 = 3 ∧ (c.of4 < 24 ∨ c.of100 = 3)

variable (c : Cycles)

theorem daysBeforeYear_year : daysBeforeYear c.year = c.days := by
  obtain ⟨q, h, f, o, hundreds, fours, ones⟩ := c
  have by4 : (400 * q + 100 * h + 4 * f + o) / 4 = 100 * q + 25 * h + f := by omega
  have by100 : (400 * q + 100 * h + 4 * f + o) / 100 = 4 * q + h := by omega
  have by400 : (400 * q + 100 * h + 4 * f + o) / 400 = q := by omega
  simp only [daysBeforeYear, year, days, Nat.add_sub_cancel, by4, by100, by400]
  omega

theorem isLeap_year_iff : isLeap c.year = true ↔ c.BeforeLeap := by
  obtain ⟨q, h, f, o, hundreds, fours, ones⟩ := c
  have by4 : (400 * q + 100 * h + 4 * f + o + 1) % 4 = (o + 1) % 4 := by omega
  have by100 : (400 * q + 100 * h + 4 * f + o + 1) % 100 = (4 * f + o + 1) % 100 := by omega
  have by400 : (400 * q + 100 * h + 4 * f + o + 1) % 400 = (100 * h + 4 * f + o + 1) % 400 := by
    omega
  simp only [isLeap, year, BeforeLeap, by4, by100, by400, Bool.and_eq_true, Bool.or_eq_true,
    decide_eq_true_eq]
  omega

end Cycles

theorem exists_cycles {y : Nat} (positive : 1 ≤ y) : ∃ c : Cycles, c.year = y := by
  refine ⟨⟨(y - 1) / 400, (y - 1) % 400 / 100, (y - 1) % 100 / 4, (y - 1) % 4, ?_, ?_, ?_⟩, ?_⟩
  · omega
  · omega
  · omega
  · simp only [Cycles.year]
    omega

/-- The number of days of a year. -/
def daysInYear (y : Nat) : Nat :=
  if isLeap y then 366 else 365

/-- The next year counts one more in the shortest cycle that is not full. -/
theorem Cycles.exists_next (c : Cycles)
    : ∃ d : Cycles,
        d.year = c.year + 1
        ∧ (c.BeforeLeap ∧ d.days = c.days + 366 ∨ ¬ c.BeforeLeap ∧ d.days = c.days + 365) := by
  obtain ⟨q, h, f, o, hundreds, fours, ones⟩ := c
  simp only [Cycles.year, Cycles.days, Cycles.BeforeLeap]
  rcases Nat.lt_or_ge o 3 with early | full
  · refine ⟨⟨q, h, f, o + 1, hundreds, fours, early⟩, ?_⟩
    dsimp only
    omega
  rcases Nat.lt_or_ge f 24 with early | full4
  · refine ⟨⟨q, h, f + 1, 0, hundreds, early, by decide⟩, ?_⟩
    dsimp only
    omega
  rcases Nat.lt_or_ge h 3 with early | full100
  · refine ⟨⟨q, h + 1, 0, 0, early, by decide, by decide⟩, ?_⟩
    dsimp only
    omega
  · refine ⟨⟨q + 1, 0, 0, 0, by decide, by decide, by decide⟩, ?_⟩
    dsimp only
    omega

theorem daysBeforeYear_succ {y : Nat} (positive : 1 ≤ y)
    : daysBeforeYear (y + 1) = daysBeforeYear y + daysInYear y := by
  obtain ⟨c, rfl⟩ := exists_cycles positive
  obtain ⟨d, year, days⟩ := c.exists_next
  rw [← year, d.daysBeforeYear_year, c.daysBeforeYear_year, daysInYear]
  rcases days with ⟨leap, days⟩ | ⟨common, days⟩
  · rw [if_pos (c.isLeap_year_iff.mpr leap), days]
  · rw [if_neg (mt c.isLeap_year_iff.mp common), days]

theorem daysBeforeYear_mono : Monotone daysBeforeYear := by
  apply monotone_nat_of_le_succ
  intro y
  rcases Nat.eq_zero_or_pos y with rfl | positive
  · decide
  · rw [daysBeforeYear_succ positive]
    exact Nat.le_add_right _ _

-----------------------------------------------------------------------------------------
-- Months
-----------------------------------------------------------------------------------------

theorem daysBeforeMonth_mono (y : Nat) : Monotone (daysBeforeMonth y) :=
  monotone_nat_of_le_succ fun _ => Nat.le_add_right _ _

theorem daysBeforeMonth_end (y : Nat) : daysBeforeMonth y 13 = daysInYear y := by
  simp only [daysBeforeMonth, daysInMonth, daysInYear]
  split <;> rfl

/-- A month and a day of it are the day of a year before which there are so many days. -/
structure IsDayAfter (y count : Nat) (found : Nat × Nat) : Prop where
  month : 1 ≤ found.1 ∧ found.1 ≤ 12
  day : 1 ≤ found.2 ∧ found.2 ≤ daysInMonth y found.1
  count : daysBeforeMonth y found.1 + found.2 = count + 1

/-- The search from a month on finds the day. -/
theorem isDayAfter_monthDay (y rest fuel month : Nat) (left : month + fuel = 12)
    (positive : 1 ≤ month) (within : daysBeforeMonth y month + rest < daysInYear y)
    : IsDayAfter y (daysBeforeMonth y month + rest) (Date.monthDay y rest fuel month) := by
  have next : daysBeforeMonth y (month + 1) = daysBeforeMonth y month + daysInMonth y month := rfl
  -- On the months that are left: the days before the month and the rest stay the same in sum.
  induction fuel generalizing rest month with
  | zero =>
      obtain rfl : month = 12 := by omega
      rw [daysBeforeMonth_end] at next
      have inMonth : rest + 1 ≤ daysInMonth y 12 := by omega
      exact ⟨⟨positive, le_refl 12⟩, ⟨Nat.le_add_left 1 rest, inMonth⟩, (Nat.add_assoc _ _ _).symm⟩
  | succ fuel ih =>
      rw [Date.monthDay]
      split
      case isTrue inMonth =>
        have inYear : month ≤ 12 := by omega
        exact ⟨⟨positive, inYear⟩, ⟨Nat.le_add_left 1 rest, inMonth⟩, (Nat.add_assoc _ _ _).symm⟩
      case isFalse later =>
        have counted : daysBeforeMonth y month + rest
            = daysBeforeMonth y (month + 1) + (rest - daysInMonth y month) := by omega
        rw [counted]
        exact ih _ _ (by omega) (by omega) (by omega) rfl

end Calendar

open Calendar

namespace Date

-----------------------------------------------------------------------------------------
-- The date with a number
-----------------------------------------------------------------------------------------

/-- The year of a day number is the one that begins before it and ends with it or after it. -/
theorem yearOf_bounds {n : Nat} (positive : 1 ≤ n)
    : 1 ≤ yearOf n
      ∧ daysBeforeYear (yearOf n) < n
      ∧ n ≤ daysBeforeYear (yearOf n) + daysInYear (yearOf n) := by
  -- The quotients that find the year are its cycles. The last century of 400 years and the last
  -- year of four are a day longer than the others, and the minima keep that day in them.
  have cycles
      : ∃ c : Cycles,
          yearOf n = c.year
          ∧ c.days < n
          ∧ n ≤ c.days + 366
          ∧ (n ≤ c.days + 365 ∨ c.BeforeLeap) := by
    refine ⟨⟨(n - 1) / 146097, _, _, _, Nat.min_le_right _ _, ?_, Nat.min_le_right _ _⟩, rfl, ?_⟩
    · omega
    · simp only [Cycles.days, Cycles.BeforeLeap]
      omega
  obtain ⟨c, year, after, within, last⟩ := cycles
  rw [year, c.daysBeforeYear_year, daysInYear]
  refine ⟨by simp [Cycles.year], after, ?_⟩
  split
  case isTrue => exact within
  case isFalse common => exact last.resolve_right (mt c.isLeap_year_iff.mpr common)

theorem daysBeforeYear_end : daysBeforeYear 10000 = lastDayNumber := by
  decide

theorem dayNumber_range (d : Date) : 1 ≤ d.dayNumber ∧ d.dayNumber ≤ lastDayNumber := by
  obtain ⟨firstDay, lastDay⟩ := d.day_range
  have nextMonth : daysBeforeMonth d.year (d.month + 1)
      = daysBeforeMonth d.year d.month + daysInMonth d.year d.month := rfl
  have inYear : daysBeforeMonth d.year (d.month + 1) ≤ daysInYear d.year := by
    rw [← daysBeforeMonth_end]
    exact daysBeforeMonth_mono d.year (by have := d.month_range; omega)
  have inCalendar : daysBeforeYear (d.year + 1) ≤ daysBeforeYear 10000 :=
    daysBeforeYear_mono (by have := d.year_range; omega)
  rw [daysBeforeYear_succ d.year_range.1, daysBeforeYear_end] at inCalendar
  simp only [dayNumber]
  omega

/-- The date with a number is the day that is found in the year of the number. -/
theorem ofDayNumber_of_monthDay {number month day : Nat}
    (range : 1 ≤ (number : Int) ∧ (number : Int) ≤ lastDayNumber)
    (found
      : monthDay (yearOf number) (number - daysBeforeYear (yearOf number) - 1) 11 1
        = (month, day))
    : ofDayNumber number = of (yearOf number) month day := by
  rw [ofDayNumber, if_pos range, Int.toNat_natCast]
  simp only [found]

/-- Every day number of the calendar has a date, of which it is the number. -/
theorem exists_ofDayNumber_eq {n : Int} (range : 1 ≤ n ∧ n ≤ lastDayNumber)
    : ∃ d : Date, ofDayNumber n = .ok d ∧ (d.dayNumber : Int) = n := by
  obtain ⟨number, rfl⟩ := Int.eq_ofNat_of_zero_le (by omega : 0 ≤ n)
  have positive : 1 ≤ number := by omega
  obtain ⟨firstYear, after, within⟩ := yearOf_bounds positive
  have lastYear : yearOf number ≤ 9999 := by
    by_contra beyond
    have late : daysBeforeYear 10000 ≤ daysBeforeYear (yearOf number) :=
      daysBeforeYear_mono (by omega)
    rw [daysBeforeYear_end] at late
    omega
  have january : daysBeforeMonth (yearOf number) 1 = 0 := rfl
  have isDay := isDayAfter_monthDay (yearOf number)
    (number - daysBeforeYear (yearOf number) - 1) 11 1 rfl (by omega) (by omega)
  cases found : monthDay (yearOf number) (number - daysBeforeYear (yearOf number) - 1) 11 1 with
  | mk month day =>
      rw [found] at isDay
      obtain ⟨inYear, inMonth, count⟩ := isDay
      refine ⟨⟨yearOf number, month, day, ⟨firstYear, lastYear⟩, inYear, inMonth⟩, ?_, ?_⟩
      · rw [ofDayNumber_of_monthDay range found, of, dif_pos ⟨firstYear, lastYear⟩,
          dif_pos inYear, dif_pos inMonth]
      · simp only [dayNumber]
        dsimp only at count
        omega

theorem ofDayNumber_eq_error {n : Int} (beyond : ¬ (1 ≤ n ∧ n ≤ lastDayNumber))
    : ofDayNumber n = .error .beyondRange := by
  rw [ofDayNumber, if_neg beyond]

end Date

end BlogSnapshot
