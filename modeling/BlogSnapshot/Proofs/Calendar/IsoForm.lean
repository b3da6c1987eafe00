import BlogSnapshot.Proofs.Calendar.WrittenForm

/-! Native timestamps read as ISO forms, in which months, days and hours have two digits each and
any one character is a gap. Where a moment is read of the text of a native timestamp, the timestamp
denotes it. So whatever form such a text is read in, it is read as the moment that is written.
-/

namespace BlogSnapshot.Calendar

open Text

variable {w : WrittenStamp} {m : Moment} {rest : List Char}

-----------------------------------------------------------------------------------------
-- Dates
-----------------------------------------------------------------------------------------

/-- A written date before other text is an ISO date only if it has two digits for month and day. -/
theorem of_isoDate {d : Date} (ends : EndsDigits rest)
    (read : isoDate (w.year.chars ++ '-' :: (w.month.chars ++ '-' :: (w.day.chars ++ rest)))
      = some d)
    : w.month.length = 2 ∧ w.day.length = 2
      ∧ Date.of w.year.number w.month.number w.day.number = .ok d := by
  unfold isoDate at read
  rw [fixedNumber_of_length w.year _ w.year_length] at read
  simp only [Option.bind_eq_bind, Option.bind_some, List.head?_cons, decide_true, if_true,
    List.tail_cons] at read
  split at read
  case h_1 week =>
    -- A week date has a letter where the month has a digit.
    obtain ⟨c, tail, chars, digit⟩ := w.month.exists_cons w.month_range.1
    rw [chars] at week
    cases week
    cases digit
  case h_2 =>
    by_cases monthTwo : w.month.length = 2
    case neg =>
      rw [fixedNumber_eq_none w.month (by have := w.month_range; omega) 0
        (endsDigits_cons.mpr (by decide))] at read
      cases read
    case pos =>
      rw [fixedNumber_of_length w.month _ monthTwo] at read
      simp only [Option.bind_some, List.head?_cons, if_true, List.tail_cons] at read
      by_cases dayTwo : w.day.length = 2
      case neg =>
        rw [fixedNumber_eq_none w.day (by have := w.day_range; omega) 0 ends] at read
        cases read
      case pos =>
        rw [fixedNumber_of_length w.day _ dayTwo] at read
        exact ⟨monthTwo, dayTwo, toOption_eq_some_iff.mp read⟩

theorem length_text (w : WrittenStamp)
    : w.text.length = w.month.length + w.day.length + 6 + w.timeText.length := by
  have year : w.year.chars.length = 4 := w.year_length
  simp only [WrittenStamp.text, List.length_append, List.length_cons, Digits.length, year]
  omega

/-- The date part of the text of a written timestamp is ten characters long, as far as there are
ten.
-/
theorem isoDateLength_text (w : WrittenStamp) : isoDateLength w.text = 10 := by
  obtain ⟨c, month, chars, digit⟩ := w.month.exists_cons w.month_range.1
  have year : w.year.chars.length = 4 := w.year_length
  have long : w.text.length ≠ 7 := by
    have := length_text w
    have := w.month_range.1
    have := w.day_range.1
    omega
  have dash : w.text[4]? = some '-' := by
    rw [WrittenStamp.text, List.getElem?_append_right year.le, year]
    rfl
  have noWeek : w.text[5]? ≠ some 'W' := by
    rw [WrittenStamp.text, List.getElem?_append_right (by omega), year, chars]
    exact fun same => ne_of_isDigit digit rfl (Option.some.inj same)
  rw [isoDateLength, if_neg long, if_pos dash, if_neg noWeek]

/-- The text of a written timestamp up to the length of an ISO date: its date with as much of the
time as there is room for where month and day are short.
-/
theorem take_text (w : WrittenStamp)
    : w.text.take 10
      = w.year.chars ++ '-' :: (w.month.chars ++ '-' :: (w.day.chars
        ++ w.timeText.take (4 - w.month.length - w.day.length))) := by
  have year : w.year.chars.length = 4 := w.year_length
  have month : w.month.chars.length ≤ 2 := w.month_range.2
  have day : w.day.chars.length ≤ 2 := w.day_range.2
  have dash : 10 - 4 - 1 - w.month.chars.length = 4 - w.month.chars.length + 1 := by omega
  rw [WrittenStamp.text, List.take_append, List.take_of_length_le (by omega), year,
    List.take_succ_cons, List.take_append, List.take_of_length_le (by omega), dash,
    List.take_succ_cons, List.take_append, List.take_of_length_le (by omega)]
  rfl

/-- An ISO date is read of the text of a written timestamp only if its month and day have two digits
each; then the rest is the time.
-/
theorem of_isoDate_text {d : Date} (read : isoDate (w.text.take (isoDateLength w.text)) = some d)
    : w.text.drop (isoDateLength w.text) = w.timeText
      ∧ Date.of w.year.number w.month.number w.day.number = .ok d := by
  have ends : EndsDigits (w.timeText.take (4 - w.month.length - w.day.length)) := by
    intro c first
    rw [List.head?_take] at first
    split at first
    case isTrue => cases first
    case isFalse => exact w.endsDigits_timeText c first
  rw [isoDateLength_text] at read ⊢
  rw [take_text] at read
  obtain ⟨monthTwo, dayTwo, date⟩ := of_isoDate ends read
  have year : w.year.chars.length = 4 := w.year_length
  have split : w.text
      = (w.year.chars ++ '-' :: (w.month.chars ++ '-' :: w.day.chars)) ++ w.timeText := by
    simp [WrittenStamp.text]
  rw [split, List.drop_left']
  · exact ⟨rfl, date⟩
  · rw [Digits.length] at monthTwo dayTwo
    simp [year, monthTwo, dayTwo]

-----------------------------------------------------------------------------------------
-- Times of day
-----------------------------------------------------------------------------------------

/-- The fraction that is read before other text is the one that is written. With fewer digits than
six it is read only where the text ends: otherwise the digits that are missing would be read too.
-/
theorem of_isoFraction {ds : Digits} {f : ClockFields} (ends : EndsDigits rest)
    (read : isoFraction (ds.chars ++ rest) = some f)
    : f.fields = [] ∧ f.micro = ds.micros := by
  obtain ⟨⟨value, left⟩, digits, read⟩ := Option.bind_eq_some_iff.mp read
  cases read
  refine ⟨rfl, ?_⟩
  rw [← sixDigits_values, sixDigits, ds.length_values]
  rcases Nat.lt_or_ge ds.length 6 with few | many
  · -- As many digits are read as the text has characters, up to six.
    have whole : min 6 (ds.chars ++ rest).length = ds.length := by
      by_contra other
      have more : ds.length < min 6 (ds.chars ++ rest).length := by
        rw [List.length_append, Digits.length] at *
        omega
      rw [fixedNumber_eq_none ds more 0 ends] at digits
      cases digits
    rw [whole, fixedNumber_of_length ds rest rfl] at digits
    cases digits
    rw [whole, List.take_of_length_le (by simpa using few.le), Digits.number]
  · have six : min 6 (ds.chars ++ rest).length = 6 := by
      rw [List.length_append]
      exact Nat.min_eq_left (Nat.le_add_right_of_le many)
    rw [six, ← ds.take_append_drop 6, List.append_assoc,
      fixedNumber_of_length _ _ (ds.length_take many)] at digits
    cases digits
    rw [six, ds.number_take, Nat.sub_eq_zero_of_le many, Nat.sub_self]

theorem clockFields_eq_none {n : Nat} {colons : Option Bool} (d : Digits) (short : d.length < 2)
    (ends : EndsDigits rest)
    : clockFields (n + 1) colons (d.chars ++ rest) = none := by
  rw [clockFields, fixedNumber_eq_none d short 0 ends]
  rfl

/-- A field and a colon are read before the fields after the colon, if there is anything there. -/
theorem clockFields_colon {n : Nat} {colons : Option Bool} (d : Digits) (two : d.length = 2)
    (withColons : colons.getD true = true) (nonempty : rest ≠ [])
    : clockFields (n + 1) colons (d.chars ++ ':' :: rest)
      = (clockFields n (some true) rest).map fun more =>
          { more with fields := d.number :: more.fields } := by
  obtain ⟨c, tail, rfl⟩ := List.exists_cons_of_ne_nil nonempty
  rw [clockFields, fixedNumber_of_length d _ two]
  simp [withColons, Option.map_eq_bind]

/-- A last field is read with the fraction after it, which must follow at once. -/
theorem of_clockFields_last {d : Digits} {fraction : Option Digits} {blanks : List Char}
    {f : ClockFields} (two : d.length = 2) (blank : ∀ c ∈ blanks, isSpaceOrTab c = true)
    (read : clockFields 1 (some true)
      (d.chars ++ (fraction.elim [] (fun ds => '.' :: ds.chars) ++ blanks)) = some f)
    : f.fields = [d.number] ∧ f.micro = fraction.elim 0 Digits.micros := by
  obtain ⟨_, field, read⟩ := Option.bind_eq_some_iff.mp read
  cases (fixedNumber_of_length d _ two).symm.trans field
  cases fraction with
  | none =>
      -- A single character after the last field is passed over, but no more than one.
      rcases blanks with _ | ⟨b, _ | ⟨c, rest⟩⟩
      · cases read
        exact ⟨rfl, rfl⟩
      · rcases isSpaceOrTab_iff.mp (blank b (by simp)) with rfl | rfl
        all_goals
          cases read
          exact ⟨rfl, rfl⟩
      · rcases isSpaceOrTab_iff.mp (blank b (by simp)) with rfl | rfl
        all_goals simp at read
  | some ds =>
      have ends : EndsDigits blanks := fun c first => endsDigits_cons.mp
        (endsDigits_of_isSpaceOrTab (s := []) (blank c (List.mem_of_mem_head? first)))
      rcases rest : ds.chars ++ blanks with _ | ⟨c, tail⟩
      · have noDigits := (List.append_eq_nil_iff.mp rest).1
        simp only [Option.elim_some, List.cons_append, rest] at read
        cases read
        exact ⟨rfl, by simp [Digits.micros, Digits.number, Digits.values, noDigits, ofDigits]⟩
      · simp only [Option.elim_some, List.cons_append, rest] at read
        obtain ⟨more, fractionRead, read⟩ := Option.bind_eq_some_iff.mp read
        rw [← rest] at fractionRead
        obtain ⟨fields, micro⟩ := of_isoFraction ends fractionRead
        cases read
        exact ⟨by rw [fields], micro⟩

/-- Seconds are preceded by hours and minutes of two digits each. -/
theorem of_clockFields {t : WrittenTime} {blanks : List Char} {f : ClockFields}
    (blank : ∀ c ∈ blanks, isSpaceOrTab c = true)
    (read : clockFields 3 none (t.hour.chars ++ ':' :: (t.minute.chars ++ ':' :: (t.second.chars
      ++ (t.fractionText ++ blanks)))) = some f)
    : f.fields = [t.hour.number, t.minute.number, t.second.number] ∧ f.micro = t.micros := by
  by_cases two : t.hour.length = 2
  case neg =>
    rw [clockFields_eq_none t.hour (by have := t.hour_range; omega)
      (endsDigits_cons.mpr (by decide))] at read
    cases read
  case pos =>
    have inSecond : t.second.chars ++ (t.fractionText ++ blanks) ≠ [] := by
      obtain ⟨c, rest, chars, _⟩ := t.second.exists_cons (by rw [t.second_length]; decide)
      simp [chars]
    rw [clockFields_colon t.hour two rfl (by simp),
      clockFields_colon t.minute t.minute_length rfl inSecond, Option.map_map] at read
    obtain ⟨last, lastRead, rfl⟩ := Option.map_eq_some_iff.mp read
    obtain ⟨fields, micro⟩ := of_clockFields_last t.second_length blank lastRead
    exact ⟨by simp [fields], micro⟩

/-- The fields of a zone are its hours, which must have two digits, and perhaps its minutes. -/
theorem of_clockFields_zone {hours : Digits} {minutes : Option Digits} {f : ClockFields}
    (range : hours.length ≤ 2) (length : ∀ m ∈ minutes, m.length = 2)
    (read : clockFields 3 none (hours.chars ++ WrittenZone.minutesText minutes) = some f)
    : f = ⟨hours.number :: (minutes.elim [] fun m => [m.number]), 0, false⟩ := by
  by_cases two : hours.length = 2
  case neg =>
    rw [clockFields_eq_none hours (by omega) (WrittenZone.endsDigits_minutesText minutes)] at read
    cases read
  case pos =>
    cases minutes with
    | none =>
        rw [clockFields, fixedNumber_of_length hours _ two] at read
        cases read
        rfl
    | some m =>
        have twoMore : m.length = 2 := length m rfl
        obtain ⟨c, rest, chars, _⟩ := m.exists_cons (by omega)
        have minutesRead : clockFields 2 (some true) m.chars = some ⟨[m.number], 0, false⟩ := by
          have field := fixedNumber_of_length m [] twoMore
          rw [List.append_nil] at field
          rw [clockFields, field]
          rfl
        rw [WrittenZone.minutesText, Option.elim_some,
          clockFields_colon hours two rfl (by simp [chars]), minutesRead] at read
        exact (Option.some.inj read).symm

theorem zone_fields {hours : Digits} {minutes : Option Digits} {f : ClockFields}
    (range : hours.length ≤ 2) (length : ∀ m ∈ minutes, m.length = 2)
    (read : clockFields 3 none (hours.chars ++ WrittenZone.minutesText minutes) = some f)
    : f.hour = hours.number ∧ f.minute = minutes.elim 0 Digits.number ∧ f.second = 0
      ∧ f.duration = (60 * hours.number + minutes.elim 0 Digits.number : Nat) * 60
        * microsPerSecond := by
  cases of_clockFields_zone range length read
  refine ⟨rfl, ?_, ?_, ?_⟩
  · cases minutes <;> rfl
  · cases minutes <;> rfl
  · cases minutes
    all_goals
      simp only [ClockFields.duration, ClockFields.hour, ClockFields.minute, ClockFields.second,
        Option.elim_none, Option.elim_some, List.getElem?_cons_zero, List.getElem?_cons_succ,
        List.getElem?_nil, Option.getD_some, Option.getD_none]
      push_cast
      ring

theorem micros_of_isoOffset {z : WrittenZone} {o : Offset} (read : isoOffset z.text = some o)
    : o.micros = z.minutes * 60 * microsPerSecond := by
  cases z with
  | universal =>
      cases read
      rfl
  | offset behind hours minutes range length =>
      rw [WrittenZone.text] at read
      unfold isoOffset at read
      split at read
      case h_1 universal => cases behind <;> cases universal
      case h_3 nothing => cases nothing
      case h_2 same =>
        cases same
        have signed : (if behind then '-' else '+') ≠ 'Z' := by cases behind <;> decide
        rw [if_neg signed] at read
        obtain ⟨f, fields, read⟩ := Option.bind_eq_some_iff.mp read
        obtain ⟨_, read⟩ := Option.ite_none_left_eq_some.mp read
        obtain ⟨hour, minute, second, duration⟩ := zone_fields range.2 length fields
        rw [hour, minute, second, duration] at read
        split at read
        case isTrue zero =>
          cases read
          simp only [decide_true, Bool.and_true, Bool.and_eq_true, decide_eq_true_eq] at zero
          simp [WrittenZone.minutes, zero.1, zero.2, Offset.utc]
        case isFalse =>
          rw [Offset.micros_of_of (toOption_eq_some_iff.mp read), WrittenZone.minutes]
          cases behind with
          | false => simp
          | true =>
              simp
              ring

theorem not_opensOffset (t : WrittenTime)
    : ∀ c ∈ t.hour.chars ++ ':' :: (t.minute.chars ++ ':' :: (t.second.chars
        ++ (t.fractionText ++ t.zoneBlanks))), opensOffset c = false := by
  have digits (d : Digits) : ∀ c ∈ d.chars, opensOffset c = false := by
    intro c member
    have other (mark : Char) (noDigit : mark.isDigit = false) : c ≠ mark :=
      ne_of_isDigit (d.isDigit c member) noDigit
    simp [opensOffset, other '+' rfl, other '-' rfl, other 'Z' rfl]
  have fraction : ∀ c ∈ t.fractionText, opensOffset c = false := by
    unfold WrittenTime.fractionText
    cases t.fraction with
    | none => exact nofun
    | some ds => exact List.forall_mem_cons.mpr ⟨rfl, digits ds⟩
  have blanks : ∀ c ∈ t.zoneBlanks, opensOffset c = false := by
    intro c member
    rcases isSpaceOrTab_iff.mp (t.isSpaceOrTab_of_mem_zoneBlanks c member) with rfl | rfl <;> rfl
  simp only [List.forall_mem_append, List.forall_mem_cons]
  exact ⟨digits _, rfl, digits _, rfl, digits _, fraction, blanks⟩

theorem cut_clockText (t : WrittenTime)
    : t.clockText.takeWhile (!opensOffset ·)
        = t.hour.chars ++ ':' :: (t.minute.chars ++ ':' :: (t.second.chars
          ++ (t.fractionText ++ t.zoneBlanks)))
      ∧ t.clockText.dropWhile (!opensOffset ·) = t.zoneMark := by
  have whole : t.clockText
      = (t.hour.chars ++ ':' :: (t.minute.chars ++ ':' :: (t.second.chars
          ++ (t.fractionText ++ t.zoneBlanks)))) ++ t.zoneMark := by
    simp [WrittenTime.clockText, WrittenTime.zoneText]
  have passes : ∀ c ∈ t.hour.chars ++ ':' :: (t.minute.chars ++ ':' :: (t.second.chars
      ++ (t.fractionText ++ t.zoneBlanks))), (!opensOffset c) = true := by
    simpa using not_opensOffset t
  have stops : ∀ c ∈ t.zoneMark.head?, (!opensOffset c) = false := by
    intro c first
    rcases t.of_mem_head_zoneMark c first with rfl | rfl | rfl <;> rfl
  rw [whole]
  refine ⟨?_, dropWhile_append passes stops⟩
  rw [List.takeWhile_append_of_pos passes]
  cases mark : t.zoneMark with
  | nil => simp
  | cons c s =>
      rw [List.takeWhile_cons_of_neg (by simp [stops c (by simp [mark])]), List.append_nil]

/-- The time of day and the offset that are read of a time are the ones that are written. -/
theorem of_isoClock {t : WrittenTime} {c : Clock} {o : Option Offset}
    (read : isoClock t.clockText = some (c, o))
    : Clock.of t.hour.number t.minute.number t.second.number t.micros = .ok c
      ∧ (o.getD .utc).micros = t.shift := by
  obtain ⟨f, fields, read⟩ := Option.bind_eq_some_iff.mp read
  rw [(cut_clockText t).1] at fields
  rw [(cut_clockText t).2] at read
  obtain ⟨fields, micro⟩ := of_clockFields t.isSpaceOrTab_of_mem_zoneBlanks fields
  have ofFields {c : Clock} (found : f.clock? = some c)
      : Clock.of t.hour.number t.minute.number t.second.number t.micros = .ok c := by
    rw [ClockFields.clock?, ClockFields.hour, ClockFields.minute, ClockFields.second, fields,
      micro] at found
    exact toOption_eq_some_iff.mp found
  unfold WrittenTime.zoneMark at read
  unfold WrittenTime.shift
  cases zone : t.zone with
  | none =>
      rw [zone] at read
      obtain ⟨_, read⟩ := Option.ite_none_left_eq_some.mp read
      obtain ⟨_, clock, same⟩ := Option.map_eq_some_iff.mp read
      cases same
      exact ⟨ofFields clock, rfl⟩
  | some z =>
      rw [zone, Option.elim_some] at read
      split at read
      case h_1 nothing =>
        obtain ⟨c, rest, text, _⟩ := z.2.exists_text_eq
        cases text.symm.trans nothing
      case h_2 =>
        obtain ⟨_, clock, read⟩ := Option.bind_eq_some_iff.mp read
        obtain ⟨offset, offsetRead, read⟩ := Option.bind_eq_some_iff.mp read
        cases read
        exact ⟨ofFields clock, micros_of_isoOffset offsetRead⟩

theorem isoClock_of_isSpaceOrTab {c : Char} (blank : isSpaceOrTab c = true)
    : isoClock (c :: rest) = none := by
  have opens : opensOffset c = false := by
    rcases isSpaceOrTab_iff.mp blank with rfl | rfl <;> rfl
  have noField : clockFields 3 none (c :: rest.takeWhile (!opensOffset ·)) = none :=
    clockFields_eq_none ⟨[], nofun⟩ (by decide) (endsDigits_of_isSpaceOrTab blank)
  have passed : (c :: rest).takeWhile (!opensOffset ·) = c :: rest.takeWhile (!opensOffset ·) :=
    List.takeWhile_cons_of_pos (by simp [opens])
  rw [isoClock, passed, noField]
  rfl

theorem denotes_of_readIso (read : readIso w.text = some m) : w.Denotes m := by
  obtain ⟨_, read⟩ := Option.ite_none_left_eq_some.mp read
  obtain ⟨d, dateRead, read⟩ := Option.bind_eq_some_iff.mp read
  obtain ⟨time, date⟩ := of_isoDate_text dateRead
  rw [time] at read
  unfold WrittenStamp.timeText at read
  cases time : w.time with
  | none =>
      rw [time] at read
      cases read
      exact .bare time date
  | some t =>
      rw [time, Option.elim_some] at read
      split at read
      case h_1 nothing => exact absurd nothing t.text_ne_nil
      case h_2 text =>
        obtain ⟨⟨clock, offset⟩, clockRead, read⟩ := Option.bind_eq_some_iff.mp read
        cases read
        -- Only one character is passed over as the gap, so of a longer one a blank is left.
        have tail := t.tail_text
        rw [text, List.tail_cons] at tail
        rcases tail with rfl | ⟨b, rest, rfl, blank⟩
        · obtain ⟨clock, shift⟩ := of_isoClock clockRead
          exact .atTime time date clock shift
        · rw [isoClock_of_isSpaceOrTab blank] at clockRead
          cases clockRead

theorem length_le_byteLength (s : List Char) : s.length ≤ byteLength s := by
  induction s with
  | nil => exact Nat.le_refl 0
  | cons c rest ih =>
      have := c.utf8Size_pos
      rw [List.length_cons, byteLength]
      omega

/-- The midnight that is read of an ISO date is denoted by it: a text of ten bytes has no room for a
time.
-/
theorem denotes_of_readIsoDate {d : Date} (read : readIsoDate w.text = some d)
    : w.Denotes { date := d } := by
  obtain ⟨bytes, read⟩ := Option.ite_none_right_eq_some.mp read
  obtain ⟨monthTwo, dayTwo, date⟩ := of_isoDate w.endsDigits_timeText read
  have short : w.text.length ≤ 10 := by
    have := length_le_byteLength w.text
    simp only [Bool.or_eq_true, decide_eq_true_eq] at bytes
    omega
  have noTime : w.time = none := by
    cases time : w.time with
    | none => rfl
    | some t =>
        have inTime : w.timeText = t.text := by rw [WrittenStamp.timeText, time, Option.elim_some]
        have := List.length_pos_of_ne_nil t.text_ne_nil
        rw [length_text, inTime] at short
        omega
  exact .bare noTime date

/-- Whatever form is read of the text of a written timestamp, the moment is denoted by it. -/
theorem denotes_of_readMoment (read : readMoment w.text = some m) : w.Denotes m := by
  rcases Option.or_eq_some_iff.mp read with iso | ⟨_, written⟩
  · exact denotes_of_readIso iso
  rcases Option.or_eq_some_iff.mp written with full | ⟨_, date⟩
  · exact denotes_of_readWritten full
  rcases Option.or_eq_some_iff.mp date with iso | ⟨_, written⟩
  · obtain ⟨d, dateRead, rfl⟩ := Option.map_eq_some_iff.mp iso
    exact denotes_of_readIsoDate dateRead
  · exact denotes_of_readWrittenDate written

end BlogSnapshot.Calendar
