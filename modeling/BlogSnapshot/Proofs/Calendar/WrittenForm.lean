import BlogSnapshot.Proofs.Calendar.WrittenMoment

/-! Native timestamps read by the pattern of written dates and times. The two grammars overlap in
part only: here a gap is one character, the hours of a zone have two digits and a fraction has one
to twelve. Where a moment is read of the text of a native timestamp, the timestamp denotes it.
-/

namespace BlogSnapshot.Calendar

open Text

variable {w : WrittenStamp} {m : Moment}

-----------------------------------------------------------------------------------------
-- Zones
-----------------------------------------------------------------------------------------

theorem sign_of_writtenOffset {c : Char} {s : List Char} {z : Option Int}
    (read : writtenOffset (c :: s) = some z)
    : c = 'Z' ∨ c = '+' ∨ c = '-' := by
  unfold writtenOffset at read
  split at read
  case h_1 nothing => cases nothing
  case h_2 universal =>
    cases universal
    exact .inl rfl
  case h_3 sign t _ same =>
    cases same
    split at read
    case isTrue => cases read
    case isFalse signed =>
      right
      by_cases behind : c = '-'
      case pos => exact .inr behind
      case neg => exact .inl (by simpa [behind] using signed)

theorem writtenOffset_sign (behind : Bool) (s : List Char)
    : writtenOffset ((if behind then '-' else '+') :: s)
      = (someDigits decimalValue? 2 2 s).bind fun hours =>
          (writtenMinutes hours.2).map fun (minutes : Nat) =>
            some (if behind then -(60 * ofDigits hours.1 + minutes : Int)
              else 60 * ofDigits hours.1 + minutes) := by
  cases behind
  all_goals simp [writtenOffset, Option.map_eq_bind]

theorem writtenMinutes_text {minutes : Option Digits} (length : ∀ m ∈ minutes, m.length = 2)
    : writtenMinutes (WrittenZone.minutesText minutes) = some (minutes.elim 0 Digits.number) := by
  cases minutes with
  | none => rfl
  | some m =>
      have two : m.length = 2 := length m rfl
      have read := someDigits_append readsDigits_decimal m [] ⟨two.ge, two.le⟩ (.inl two)
      rw [List.append_nil] at read
      simp [writtenMinutes, WrittenZone.minutesText, read, Digits.number]

theorem minutes_of_writtenOffset {z : WrittenZone} {minutes : Option Int}
    (read : writtenOffset z.text = some minutes)
    : minutes = some z.minutes := by
  cases z with
  | universal => exact (Option.some.inj read).symm
  | offset behind hours minutes range length =>
      rw [WrittenZone.text, writtenOffset_sign] at read
      by_cases two : hours.length = 2
      case pos =>
        rw [someDigits_append readsDigits_decimal hours _ ⟨two.ge, two.le⟩ (.inl two),
          Option.bind_some, writtenMinutes_text length] at read
        exact (Option.some.inj read).symm
      case neg =>
        rw [someDigits_eq_none readsDigits_decimal hours (by omega) (le_refl 2)
          (WrittenZone.endsDigits_minutesText minutes)] at read
        cases read

/-- The zone of a time, after blanks, is read as an offset of as many minutes, or as none. -/
theorem zone_of_writtenOffset {t : WrittenTime} {minutes : Option Int}
    (read : writtenOffset (t.zoneText.dropWhile isBlank) = some minutes)
    : minutes = t.zone.map (·.2.minutes) := by
  have dropped : t.zoneText.dropWhile isBlank = t.zoneMark := by
    refine dropWhile_append ?_ ?_
    · intro c member
      rcases isSpaceOrTab_iff.mp (t.isSpaceOrTab_of_mem_zoneBlanks c member) with rfl | rfl
      all_goals decide
    · intro c first
      rcases t.of_mem_head_zoneMark c first with rfl | rfl | rfl <;> decide
  rw [dropped, WrittenTime.zoneMark] at read
  cases zone : t.zone with
  | none =>
      rw [zone] at read
      exact (Option.some.inj read).symm
  | some z =>
      rw [zone] at read
      exact minutes_of_writtenOffset read

-----------------------------------------------------------------------------------------
-- Seconds
-----------------------------------------------------------------------------------------

theorem sign_after_blanks {c : Char} {s : List Char} {z : Option Int} (solid : isBlank c = false)
    (read : writtenOffset ((c :: s).dropWhile isBlank) = some z)
    : c = 'Z' ∨ c = '+' ∨ c = '-' := by
  rw [List.dropWhile_cons_of_neg (by simp [solid])] at read
  exact sign_of_writtenOffset read

/-- No point or comma stands at the head of a zone. -/
theorem after_zoneText (t : WrittenTime)
    : after (fun c => c = '.' || c = ',') t.zoneText = none := by
  cases text : t.zoneText with
  | nil => rfl
  | cons c s =>
      have first := t.of_mem_head_zoneText c (by rw [text]; rfl)
      rw [after, if_neg]
      rcases first with (rfl | rfl | rfl) | blank
      · decide
      · decide
      · decide
      · rcases isSpaceOrTab_iff.mp blank with rfl | rfl <;> decide

/-- The seconds and the fraction of a time are read as they are written, if an offset is read after
them: a fraction without digits, or with too many, leaves a text that is none.
-/
theorem seconds_of_writtenSeconds {t : WrittenTime} {second micro : Nat} {s : List Char}
    {minutes : Option Int}
    (read : writtenSeconds (':' :: (t.second.chars ++ (t.fractionText ++ t.zoneText)))
      = some ((second, micro), s))
    (zoneRead : writtenOffset (s.dropWhile isBlank) = some minutes)
    : second = t.second.number ∧ micro = t.micros ∧ s = t.zoneText := by
  have secondRead : someDigits decimalValue? 1 2 (t.second.chars ++ (t.fractionText ++ t.zoneText))
      = some (t.second.values, t.fractionText ++ t.zoneText) :=
    someDigits_append readsDigits_decimal t.second _
      ⟨by rw [t.second_length]; decide, t.second_length.le⟩ (.inl t.second_length)
  simp only [writtenSeconds, secondRead] at read
  unfold WrittenTime.fractionText at read
  unfold WrittenTime.micros
  cases fraction : t.fraction with
  | none =>
      simp only [fraction, Option.elim_none, List.nil_append, after_zoneText] at read
      cases read
      exact ⟨rfl, rfl, rfl⟩
  | some ds =>
      have point (u : List Char) : after (fun c => c = '.' || c = ',') ('.' :: u) = some u := rfl
      simp only [fraction, Option.elim_some, List.cons_append, point] at read
      rcases Nat.lt_or_ge ds.length 1 with few | one
      · -- Without digits the point is left where the offset is read.
        rw [someDigits_eq_none readsDigits_decimal ds few (by decide) t.endsDigits_zoneText] at read
        cases read
        exact absurd (sign_after_blanks (by decide) zoneRead) (by decide)
      rcases Nat.lt_or_ge 12 ds.length with many | fits
      · -- After twelve digits another one is left there.
        obtain ⟨c, rest, more, digit⟩ := (ds.drop 12).exists_cons (by rw [ds.length_drop]; omega)
        have twelve := ds.length_take many.le
        rw [← ds.take_append_drop 12, List.append_assoc,
          someDigits_append readsDigits_decimal (ds.take 12) _ ⟨by omega, twelve.le⟩ (.inl twelve),
          more] at read
        cases read
        rcases sign_after_blanks (not_isBlank_of_isDigit digit) zoneRead with rfl | rfl | rfl
        all_goals cases digit
      · rw [someDigits_append readsDigits_decimal ds _ ⟨one, fits⟩ (.inr t.endsDigits_zoneText)]
          at read
        cases read
        exact ⟨rfl, sixDigits_values ds, rfl⟩

-----------------------------------------------------------------------------------------
-- Dates and times
-----------------------------------------------------------------------------------------

/-- The moment that is read of a written date and time is denoted by the timestamp. -/
theorem denotes_of_readWritten (read : readWritten w.text = some m) : w.Denotes m := by
  obtain ⟨_, dashed, read⟩ := Option.bind_eq_some_iff.mp read
  cases (dashedDate_text readsDigits_decimal w).symm.trans dashed
  obtain ⟨s1, gap, read⟩ := Option.bind_eq_some_iff.mp read
  obtain ⟨⟨_, s2⟩, hourRead, read⟩ := Option.bind_eq_some_iff.mp read
  obtain ⟨s3, colon, read⟩ := Option.bind_eq_some_iff.mp read
  obtain ⟨⟨_, s4⟩, minuteRead, read⟩ := Option.bind_eq_some_iff.mp read
  obtain ⟨⟨⟨second, micro⟩, s5⟩, secondsRead, read⟩ := Option.bind_eq_some_iff.mp read
  obtain ⟨minutes, zoneRead, read⟩ := Option.bind_eq_some_iff.mp read
  obtain ⟨o, offset, read⟩ := Option.bind_eq_some_iff.mp read
  obtain ⟨d, date, read⟩ := Option.bind_eq_some_iff.mp read
  obtain ⟨c, clock, read⟩ := Option.bind_eq_some_iff.mp read
  cases read
  unfold WrittenStamp.timeText at gap
  cases time : w.time with
  | none =>
      rw [time] at gap
      cases gap
  | some t =>
      rw [time, Option.elim_some] at gap
      -- One character is passed over as the gap; a blank that is left begins no hour.
      have clockText : s1 = t.clockText := by
        obtain ⟨b, rest, text⟩ := List.exists_cons_of_ne_nil t.text_ne_nil
        have same : rest = s1 := by
          rw [text, after] at gap
          exact Option.some.inj (Option.ite_none_right_eq_some.mp gap).2
        have tail := t.tail_text
        rw [text, List.tail_cons, same] at tail
        rcases tail with clock | ⟨c, s, rfl, blank⟩
        · exact clock
        · rw [someDigits_of_endsDigits readsDigits_decimal (by decide) (by decide)
            (endsDigits_of_isSpaceOrTab blank)] at hourRead
          cases hourRead
      rw [clockText, WrittenTime.clockText, someDigits_append readsDigits_decimal t.hour _
        t.hour_range (.inr (endsDigits_cons.mpr (by decide)))] at hourRead
      cases hourRead
      cases after_eq_some_iff.mp colon
      rw [someDigits_append readsDigits_decimal t.minute _
        ⟨by rw [t.minute_length]; decide, t.minute_length.le⟩ (.inl t.minute_length)] at minuteRead
      cases minuteRead
      obtain ⟨rfl, rfl, rfl⟩ := seconds_of_writtenSeconds secondsRead zoneRead
      cases zone_of_writtenOffset zoneRead
      have shift := micros_of_offsetOf (toOption_eq_some_iff.mp offset)
      exact .atTime time (toOption_eq_some_iff.mp date) (toOption_eq_some_iff.mp clock)
        (shift.trans t.shift_eq.symm)

/-- The midnight that is read of a written date is denoted by it; a time is no part of the form. -/
theorem denotes_of_readWrittenDate (read : readWrittenDate w.text = some m) : w.Denotes m := by
  obtain ⟨_, dashed, read⟩ := Option.bind_eq_some_iff.mp read
  cases (dashedDate_text readsDigits_decimal w).symm.trans dashed
  obtain ⟨bare, read⟩ := Option.ite_none_right_eq_some.mp read
  obtain ⟨d, date, read⟩ := Option.bind_eq_some_iff.mp read
  cases read
  have noTime : w.time = none := by
    cases time : w.time with
    | none => rfl
    | some t =>
        rw [WrittenStamp.timeText, time, List.isEmpty_iff] at bare
        exact absurd bare t.text_ne_nil
  exact .bare noTime (toOption_eq_some_iff.mp date)

end BlogSnapshot.Calendar
