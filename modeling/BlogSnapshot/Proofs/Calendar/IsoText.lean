import BlogSnapshot.Calendar.Format
import BlogSnapshot.Proofs.Calendar.IsoForm

/-! The ISO form of a moment in universal time. It is the text of a timestamp with all its digits,
and is read back as the moment.
-/

namespace BlogSnapshot

namespace Calendar

theorem length_toDigits_le {n k : Nat} (positive : 0 < k) (fits : n < 10 ^ k)
    : (Nat.toDigits 10 n).length ≤ k :=
  (Nat.length_toDigits_le_iff (by decide) positive).mpr fits

namespace Digits

theorem number_eq_ofDigitChars (d : Digits) : d.number = Nat.ofDigitChars 10 d.chars 0 := by
  rw [number, values, Text.ofDigits, List.foldl_map, Nat.ofDigitChars_eq_foldl]
  rfl

/-- The digits of a number in at least some decimal places. -/
def ofNat (width n : Nat) : Digits where
  chars := (padded width n).toList
  isDigit := by
    rw [padded, String.toList_ofList, List.forall_mem_append]
    refine ⟨fun c member => ?_, fun c member => ?_⟩
    · rw [List.eq_of_mem_replicate member]
      rfl
    · exact Nat.isDigit_of_mem_toDigits (by decide) (by decide) member

theorem chars_ofNat (width n : Nat) : (ofNat width n).chars = (padded width n).toList :=
  rfl

theorem number_ofNat (width n : Nat) : (ofNat width n).number = n := by
  rw [number_eq_ofDigitChars, chars_ofNat, padded, String.toList_ofList,
    Nat.ofDigitChars_append, Nat.ofDigitChars_replicate_zero, Nat.mul_zero,
    Nat.ofDigitChars_ten_toDigits]

theorem length_ofNat {width n : Nat} (positive : 0 < width) (fits : n < 10 ^ width)
    : (ofNat width n).length = width := by
  have short := length_toDigits_le positive fits
  rw [length, chars_ofNat, padded, String.toList_ofList, List.length_append, List.length_replicate]
  omega

theorem length_two {n : Nat} (fits : n < 100) : (ofNat 2 n).length = 2 :=
  length_ofNat (by decide) fits

end Digits

/-- The offset of universal time as it is written. -/
def WrittenZone.zero : WrittenZone :=
  .offset false (.ofNat 2 0) (some (.ofNat 2 0))
    (by decide) (by decide)

end Calendar

open Calendar

/-- A time of day as it is written before the offset of universal time. -/
def Clock.written (c : Clock) : WrittenTime where
  gap := ['T']
  hour := .ofNat 2 c.hour
  minute := .ofNat 2 c.minute
  second := .ofNat 2 c.second
  fraction := if c.micro = 0 then none else some (.ofNat 6 c.micro)
  zone := some ([], .zero)
  isGap := .inl rfl
  hour_range := by
    have := c.hour_range
    rw [Digits.length_two (by omega)]
    decide
  minute_length := Digits.length_two (by have := c.minute_range; omega)
  second_length := Digits.length_two (by have := c.second_range; omega)
  blanks := by simp

theorem Date.month_lt (d : Date) : d.month < 100 := by
  have := d.month_range
  omega

theorem Date.day_lt (d : Date) : d.day < 100 := by
  have range := d.day_range
  have := d.month_range
  have few : daysInMonth d.year d.month ≤ 31 := by
    unfold daysInMonth
    split <;> try decide
    split <;> decide
  omega

/-- The date and the time of day of a moment as they are written in universal time. -/
def Moment.written (m : Moment) : WrittenStamp where
  year := .ofNat 4 m.date.year
  month := .ofNat 2 m.date.month
  day := .ofNat 2 m.date.day
  time := some m.clock.written
  year_length := Digits.length_ofNat (by decide) (by have := m.date.year_range; omega)
  month_range := by
    rw [Digits.length_two m.date.month_lt]
    decide
  day_range := by
    rw [Digits.length_two m.date.day_lt]
    decide

theorem Clock.toList_iso (c : Clock)
    : c.iso.toList ++ "+00:00".toList = c.written.clockText := by
  have zero : (Digits.ofNat 2 0).chars = ['0', '0'] := by decide
  rw [iso, WrittenTime.clockText, WrittenTime.fractionText, WrittenTime.zoneText, written]
  simp only [WrittenTime.zoneBlanks, WrittenTime.zoneMark, WrittenZone.zero, WrittenZone.text,
    WrittenZone.minutesText, Option.elim_some, zero, Digits.chars_ofNat]
  split <;> simp [Digits.chars_ofNat]

/-- The ISO form in universal time is the text of a timestamp. -/
theorem Moment.toList_iso {m : Moment} (universal : m.offset = some .utc)
    : m.iso.toList = m.written.text := by
  have zone : offsetText .utc = "+00:00" := by decide
  rw [iso, universal, Option.elim_some, zone, String.toList_append, String.toList_append,
    List.append_assoc, m.clock.toList_iso]
  simp [Date.iso, WrittenStamp.text, WrittenStamp.timeText, WrittenTime.text, written,
    Clock.written, Digits.chars_ofNat]

-----------------------------------------------------------------------------------------
-- Reading the form
-----------------------------------------------------------------------------------------

theorem Date.of_self (d : Date) : Date.of d.year d.month d.day = .ok d := by
  rw [Date.of, dif_pos d.year_range, dif_pos d.month_range, dif_pos d.day_range]

theorem Clock.of_self (c : Clock) : Clock.of c.hour c.minute c.second c.micro = .ok c := by
  have whole := Nat.mod_eq_of_lt c.micro_range
  rw [Clock.of, dif_pos c.hour_range, dif_pos c.minute_range, dif_pos c.second_range]
  simp only [whole]

namespace Calendar

/-- A date with all its digits is read as an ISO date. -/
theorem isoDate_text {w : WrittenStamp} {d : Date} (monthTwo : w.month.length = 2)
    (dayTwo : w.day.length = 2)
    (date : Date.of w.year.number w.month.number w.day.number = .ok d)
    : isoDate (w.text.take (isoDateLength w.text)) = some d := by
  have nothing : 4 - w.month.length - w.day.length = 0 := by omega
  rw [isoDateLength_text, take_text, nothing, List.take_zero]
  unfold isoDate
  rw [fixedNumber_of_length w.year _ w.year_length]
  simp only [Option.bind_eq_bind, Option.bind_some, List.head?_cons, decide_true, if_true,
    List.tail_cons]
  split
  case h_1 week =>
    obtain ⟨c, tail, chars, digit⟩ := w.month.exists_cons w.month_range.1
    rw [chars] at week
    cases week
    cases digit
  case h_2 =>
    rw [fixedNumber_of_length w.month _ monthTwo]
    simp only [Option.bind_some, List.head?_cons, if_true, List.tail_cons]
    rw [fixedNumber_of_length w.day _ dayTwo]
    simp [date, Except.toOption]

theorem isoFraction_six {ds : Digits} (six : ds.length = 6)
    : isoFraction ds.chars = some ⟨[], ds.number, false⟩ := by
  have whole : min 6 ds.chars.length = 6 := by
    rw [show ds.chars.length = 6 from six]
    rfl
  have read := fixedNumber_of_length ds [] six
  rw [List.append_nil] at read
  rw [isoFraction, whole, read]
  simp [isLeftOver]

/-- A last field is read with the six digits of a fraction, if there is one. -/
theorem clockFields_last {d : Digits} (two : d.length = 2) {fraction : Option Digits}
    (six : ∀ ds ∈ fraction, ds.length = 6)
    : clockFields 1 (some true) (d.chars ++ fraction.elim [] fun ds => '.' :: ds.chars)
      = some ⟨[d.number], fraction.elim 0 Digits.number, false⟩ := by
  rw [clockFields, fixedNumber_of_length d _ two]
  cases fraction with
  | none => rfl
  | some ds =>
      obtain ⟨c, rest, chars, digit⟩ := ds.exists_cons (by rw [six ds rfl]; decide)
      have read := isoFraction_six (six ds rfl)
      rw [chars] at read
      simp [chars, read]

theorem text_zero : WrittenZone.zero.text = ['+', '0', '0', ':', '0', '0'] := by
  decide

end Calendar

theorem Clock.fraction_written (c : Clock)
    : (∀ ds ∈ c.written.fraction, ds.length = 6)
      ∧ c.written.fraction.elim 0 Digits.number = c.micro := by
  unfold written
  by_cases whole : c.micro = 0
  case pos => simp [whole]
  case neg => simp [whole, Digits.number_ofNat, Digits.length_ofNat, c.micro_range]

/-- The time of day before an offset is read as it is. -/
theorem Clock.clockFields_written (c : Clock)
    : clockFields 3 none (c.written.clockText.takeWhile (!opensOffset ·))
      = some ⟨[c.hour, c.minute, c.second], c.micro, false⟩ := by
  obtain ⟨six, micro⟩ := c.fraction_written
  have hour : c.written.hour.length = 2 := Digits.length_two (by have := c.hour_range; omega)
  have last : clockFields 1 (some true) (c.written.second.chars ++ c.written.fractionText)
      = some ⟨[c.second], c.micro, false⟩ := by
    have read := clockFields_last c.written.second_length six
    rwa [micro, show c.written.second.number = c.second from Digits.number_ofNat 2 _] at read
  have noBlanks : c.written.zoneBlanks = [] := rfl
  have solid : c.written.second.chars ++ c.written.fractionText ≠ [] := by
    obtain ⟨d, rest, chars, _⟩ := c.written.second.exists_cons
      (by rw [c.written.second_length]; decide)
    simp [chars]
  rw [(cut_clockText _).1, noBlanks, List.append_nil, clockFields_colon _ hour rfl (by simp),
    clockFields_colon _ c.written.minute_length rfl solid, last]
  simp [written, Digits.number_ofNat]

theorem Clock.isoClock_written (c : Clock)
    : isoClock c.written.clockText = some (c, some .utc) := by
  have zone : c.written.clockText.dropWhile (!opensOffset ·) = WrittenZone.zero.text :=
    (cut_clockText _).2
  have clock : ClockFields.clock? ⟨[c.hour, c.minute, c.second], c.micro, false⟩ = some c :=
    congrArg Except.toOption c.of_self
  have offset : isoOffset ['+', '0', '0', ':', '0', '0'] = some .utc := by decide
  rw [isoClock, c.clockFields_written, zone, text_zero]
  simp [clock, offset]

theorem Moment.readIso_written (m : Moment)
    : readIso m.written.text = some { m with offset := some .utc } := by
  have date : Date.of m.written.year.number m.written.month.number m.written.day.number
      = .ok m.date := by
    simp [written, Digits.number_ofNat, m.date.of_self]
  have month : m.written.month.length = 2 := Digits.length_two m.date.month_lt
  have day : m.written.day.length = 2 := Digits.length_two m.date.day_lt
  have read := isoDate_text month day date
  have long : ¬ m.written.text.length < 7 := by
    rw [length_text, month, day]
    omega
  rw [readIso, if_neg long, read, (of_isoDate_text read).1]
  have time : m.written.timeText = 'T' :: m.clock.written.clockText := rfl
  rw [time]
  simp [m.clock.isoClock_written]

/-- A moment in universal time is read of its ISO form. -/
theorem Moment.readMoment_iso {m : Moment} (universal : m.offset = some .utc)
    : readMoment m.iso.toList = some m := by
  obtain ⟨date, clock, offset⟩ := m
  cases universal
  rw [toList_iso rfl, readMoment, readIso_written]
  rfl

end BlogSnapshot
