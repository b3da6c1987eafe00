import BlogSnapshot.Proofs.Calendar.WrittenStamp
import Mathlib.Data.List.TakeWhile

/-! Reading native timestamps. What is read of a text are the pieces that it is made up of, and
every text that is made up of such pieces is read.
-/

namespace BlogSnapshot.Calendar

open Text

variable {s rest : List Char}

theorem after_eq_some_iff {d : Char} : after (· = d) s = some rest ↔ s = d :: rest := by
  cases s with
  | nil => simp [after]
  | cons c s =>
      rw [after, Option.ite_none_right_eq_some, decide_eq_true_eq, Option.some.injEq,
        List.cons.injEq]

@[simp] theorem after_cons {d : Char} : after (· = d) (d :: s) = some s :=
  after_eq_some_iff.mpr rfl

/-- What is read as minutes of a zone are two digits after a colon, or nothing. -/
theorem nativeMinutes_eq_some_iff {n : Nat}
    : nativeMinutes s = some n
      ↔ ∃ minutes : Option Digits,
          (∀ m ∈ minutes, m.length = 2)
          ∧ WrittenZone.minutesText minutes = s
          ∧ minutes.elim 0 Digits.number = n := by
  constructor
  · intro read
    cases s with
    | nil => exact ⟨none, nofun, rfl, Option.some.inj read⟩
    | cons c s =>
        obtain ⟨colon, read⟩ := Option.ite_none_left_eq_some.mp read
        obtain ⟨⟨ds, rest⟩, digits, read⟩ := Option.bind_eq_some_iff.mp read
        obtain ⟨m, rfl, rfl, two, atMost⟩ := exists_digits_of_someDigits digits
        obtain ⟨last, number⟩ := Option.ite_none_right_eq_some.mp read
        cases not_ne_iff.mp colon
        cases List.isEmpty_iff.mp last
        refine ⟨some m, ?_, by simp [WrittenZone.minutesText], Option.some.inj number⟩
        rintro _ ⟨⟩
        exact le_antisymm atMost two
  · rintro ⟨minutes, length, rfl, rfl⟩
    cases minutes with
    | none => rfl
    | some m =>
        have two : m.length = 2 := length m rfl
        have read := someDigits_append readsDigits_ascii m [] ⟨two.ge, two.le⟩ (.inl two)
        rw [List.append_nil] at read
        simp [nativeMinutes, WrittenZone.minutesText, read, Digits.number]

theorem nativeZone_sign (behind : Bool)
    : nativeZone ((if behind then '-' else '+') :: s)
      = (someDigits asciiDigit? 1 2 s).bind fun hours =>
          (nativeMinutes hours.2).map fun (minutes : Nat) =>
            some (if behind then -(60 * ofDigits hours.1 + minutes : Int)
              else 60 * ofDigits hours.1 + minutes) := by
  cases behind
  all_goals
    simp [nativeZone, Option.map_eq_bind]

theorem sign_of_nativeZone {c : Char} {z : Option Int} (read : nativeZone (c :: s) = some z)
    : (c = 'Z' ∧ s = []) ∨ ∃ behind : Bool, c = if behind then '-' else '+' := by
  unfold nativeZone at read
  split at read
  case h_1 nothing => cases nothing
  case h_2 universal =>
    cases universal
    exact .inl ⟨rfl, rfl⟩
  case h_3 sign t _ same =>
    cases same
    split at read
    case isTrue => cases read
    case isFalse signed =>
      by_cases behind : c = '-'
      case pos => exact .inr ⟨true, behind⟩
      case neg => exact .inr ⟨false, by simpa [behind] using signed⟩

/-- What is read as a zone is a written zone, or nothing. -/
theorem nativeZone_eq_some_iff {z : Option Int}
    : nativeZone s = some z
      ↔ ∃ w : Option WrittenZone,
          w.elim [] WrittenZone.text = s ∧ w.map WrittenZone.minutes = z := by
  constructor
  · intro read
    cases s with
    | nil => exact ⟨none, rfl, Option.some.inj read⟩
    | cons c s =>
        rcases sign_of_nativeZone read with ⟨rfl, rfl⟩ | ⟨behind, rfl⟩
        · exact ⟨some .universal, rfl, Option.some.inj read⟩
        · rw [nativeZone_sign] at read
          obtain ⟨⟨ds, rest⟩, digits, read⟩ := Option.bind_eq_some_iff.mp read
          obtain ⟨hours, rfl, rfl, range⟩ := exists_digits_of_someDigits digits
          obtain ⟨n, after, rfl⟩ := Option.map_eq_some_iff.mp read
          obtain ⟨minutes, length, rfl, rfl⟩ := nativeMinutes_eq_some_iff.mp after
          exact ⟨some (.offset behind hours minutes range length), rfl, rfl⟩
  · rintro ⟨w, rfl, rfl⟩
    rcases w with _ | _ | ⟨behind, hours, minutes, range, length⟩
    · rfl
    · rfl
    · have after := nativeMinutes_eq_some_iff.mpr ⟨minutes, length, rfl, rfl⟩
      rw [Option.elim_some, WrittenZone.text, nativeZone_sign,
        someDigits_append readsDigits_ascii hours _ range
          (.inr (WrittenZone.endsDigits_minutesText minutes)),
        Option.bind_some, after]
      rfl

/-- What is read after blanks is a written zone with the blanks before it, or nothing. -/
theorem exists_zone_of_zoneAfterBlanks {z : Option Int} (read : zoneAfterBlanks s = some z)
    : ∃ w : Option (List Char × WrittenZone),
        (∀ b ∈ w, ∀ c ∈ b.1, isSpaceOrTab c = true)
        ∧ w.elim [] (·.1) ++ w.elim [] (·.2.text) = s
        ∧ w.map (·.2.minutes) = z := by
  obtain ⟨sound, zone⟩ := Option.ite_none_left_eq_some.mp read
  obtain ⟨w, text, rfl⟩ := nativeZone_eq_some_iff.mp zone
  cases w with
  | none =>
      refine ⟨none, nofun, ?_, rfl⟩
      rw [← text] at sound
      simpa using sound
  | some w =>
      refine ⟨some (s.takeWhile isSpaceOrTab, w), ?_, ?_, rfl⟩
      · rintro _ ⟨⟩ c member
        exact List.mem_takeWhile_imp member
      · rw [Option.elim_some] at text
        rw [Option.elim_some, Option.elim_some, text, List.takeWhile_append_dropWhile]

theorem zoneAfterBlanks_text (t : WrittenTime)
    : zoneAfterBlanks t.zoneText = some (t.zone.map (·.2.minutes)) := by
  have dropped : t.zoneText.dropWhile isSpaceOrTab = t.zoneMark := by
    refine dropWhile_append t.isSpaceOrTab_of_mem_zoneBlanks ?_
    intro c first
    rcases t.of_mem_head_zoneMark c first with rfl | rfl | rfl <;> rfl
  have zone : nativeZone t.zoneMark = some (t.zone.map (·.2.minutes)) :=
    nativeZone_eq_some_iff.mpr ⟨t.zone.map (·.2), by
      unfold WrittenTime.zoneMark
      cases t.zone <;> simp⟩
  have sound : (t.zoneMark.isEmpty && !t.zoneText.isEmpty) = false := by
    unfold WrittenTime.zoneText WrittenTime.zoneBlanks WrittenTime.zoneMark
    cases t.zone with
    | none => rfl
    | some z =>
        obtain ⟨c, rest, text, _⟩ := z.2.exists_text_eq
        simp [text]
  simp [zoneAfterBlanks, dropped, zone, sound]

theorem afterGap_append {gap : List Char} (isGap : IsGap gap) {c : Char} (digit : c.isDigit = true)
    : afterGap (gap ++ c :: s) = some (c :: s) := by
  rcases isGap with rfl | rfl | ⟨nonempty, blank⟩
  · rfl
  · rfl
  · obtain ⟨b, rest, rfl⟩ := List.exists_cons_of_ne_nil nonempty
    obtain ⟨first, more⟩ := List.forall_mem_cons.mp blank
    have dropped : (rest ++ c :: s).dropWhile isSpaceOrTab = c :: s := by
      refine dropWhile_append more ?_
      rintro _ ⟨⟩
      exact not_isSpaceOrTab_of_isDigit digit
    rw [List.cons_append]
    unfold afterGap
    split
    case h_1 same => cases same; cases first
    case h_2 same => cases same; cases first
    case h_3 b rest' _ _ same =>
      cases same
      rw [if_pos first, dropped]
    case h_4 nothing => cases nothing

theorem exists_gap_of_afterGap (found : afterGap s = some rest)
    : ∃ gap, IsGap gap ∧ gap ++ rest = s := by
  unfold afterGap at found
  split at found
  case h_1 t => exact ⟨['T'], .inl rfl, by rw [← Option.some.inj found]; rfl⟩
  case h_2 t => exact ⟨['t'], .inr (.inl rfl), by rw [← Option.some.inj found]; rfl⟩
  case h_3 c t _ _ =>
    obtain ⟨blank, dropped⟩ := Option.ite_none_right_eq_some.mp found
    refine ⟨c :: t.takeWhile isSpaceOrTab, .inr (.inr ⟨nofun, ?_⟩), ?_⟩
    · exact List.forall_mem_cons.mpr ⟨blank, fun d member => List.mem_takeWhile_imp member⟩
    · rw [← Option.some.inj dropped, List.cons_append, List.takeWhile_append_dropWhile]
  case h_4 => cases found

theorem nativeFraction_append (fraction : Option Digits) (ends : EndsDigits rest)
    (noPoint : '.' ∉ rest.head?)
    : nativeFraction (fraction.elim [] (fun ds => '.' :: ds.chars) ++ rest)
      = (fraction.elim [] Digits.values, rest) := by
  cases fraction with
  | none =>
      unfold nativeFraction
      split
      case h_1 same => cases same; simp at noPoint
      case h_2 => rfl
  | some ds =>
      exact headDigits_append readsDigits_ascii ds rest (by simp [Digits.length]) (.inr ends)

theorem exists_fraction_of_nativeFraction {values : List Nat}
    (read : nativeFraction s = (values, rest))
    : ∃ fraction : Option Digits,
        fraction.elim [] (fun ds => '.' :: ds.chars) ++ rest = s
        ∧ fraction.elim [] Digits.values = values := by
  unfold nativeFraction at read
  split at read
  case h_1 s =>
    obtain ⟨ds, rfl, same, _⟩ := exists_digits_of_headDigits read
    exact ⟨some ds, rfl, same⟩
  case h_2 =>
    cases read
    exact ⟨none, rfl, rfl⟩

/-- The times that are read are the written times. -/
theorem nativeTime_eq_some_iff {p : NativeTime}
    : nativeTime s = some p ↔ ∃ t : WrittenTime, t.text = s ∧ t.parts = p := by
  constructor
  · -- What is read is cut off the text piece by piece, and the pieces put it back together.
    intro read
    obtain ⟨s1, gapRead, read⟩ := Option.bind_eq_some_iff.mp read
    obtain ⟨⟨_, s2⟩, hourRead, read⟩ := Option.bind_eq_some_iff.mp read
    obtain ⟨s3, colon, read⟩ := Option.bind_eq_some_iff.mp read
    obtain ⟨⟨_, s4⟩, minuteRead, read⟩ := Option.bind_eq_some_iff.mp read
    obtain ⟨s5, colon', read⟩ := Option.bind_eq_some_iff.mp read
    obtain ⟨⟨_, s6⟩, secondRead, read⟩ := Option.bind_eq_some_iff.mp read
    rcases fractionRead : nativeFraction s6 with ⟨values, s7⟩
    simp only [fractionRead] at read
    obtain ⟨_, zoneRead, read⟩ := Option.bind_eq_some_iff.mp read
    obtain ⟨gap, isGap, rfl⟩ := exists_gap_of_afterGap gapRead
    obtain ⟨hour, rfl, rfl, hourRange⟩ := exists_digits_of_someDigits hourRead
    cases after_eq_some_iff.mp colon
    obtain ⟨minute, rfl, rfl, two, atMost⟩ := exists_digits_of_someDigits minuteRead
    cases after_eq_some_iff.mp colon'
    obtain ⟨second, rfl, rfl, two', atMost'⟩ := exists_digits_of_someDigits secondRead
    obtain ⟨fraction, rfl, rfl⟩ := exists_fraction_of_nativeFraction fractionRead
    obtain ⟨zone, blanks, rfl, rfl⟩ := exists_zone_of_zoneAfterBlanks zoneRead
    exact ⟨⟨gap, hour, minute, second, fraction, zone, isGap, hourRange, le_antisymm atMost two,
      le_antisymm atMost' two', blanks⟩, rfl, Option.some.inj read⟩
  · -- No piece can go on with the character that follows it.
    rintro ⟨t, rfl, rfl⟩
    obtain ⟨c, rest, hourText, digit⟩ := t.hour.exists_cons t.hour_range.1
    have gapRead : afterGap t.text = some t.clockText := by
      rw [WrittenTime.text, WrittenTime.clockText, hourText]
      exact afterGap_append t.isGap digit
    have hourRead := someDigits_append readsDigits_ascii t.hour (':' ::
      (t.minute.chars ++ ':' :: (t.second.chars ++ (t.fractionText ++ t.zoneText)))) t.hour_range
      (.inr (endsDigits_cons.mpr (by decide)))
    have minuteRead := someDigits_append readsDigits_ascii t.minute
      (':' :: (t.second.chars ++ (t.fractionText ++ t.zoneText)))
      ⟨t.minute_length.ge, t.minute_length.le⟩ (.inl t.minute_length)
    have secondRead := someDigits_append readsDigits_ascii t.second (t.fractionText ++ t.zoneText)
      ⟨t.second_length.ge, t.second_length.le⟩ (.inl t.second_length)
    have noPoint : '.' ∉ t.zoneText.head? := fun point =>
      absurd (t.of_mem_head_zoneText '.' point) (by decide)
    have fractionRead : nativeFraction (t.fractionText ++ t.zoneText)
        = (t.fraction.elim [] Digits.values, t.zoneText) :=
      nativeFraction_append t.fraction t.endsDigits_zoneText noPoint
    rw [WrittenTime.clockText] at gapRead
    simp [nativeTime, gapRead, hourRead, minuteRead, secondRead, fractionRead,
      zoneAfterBlanks_text t]
    rfl

/-- The date of a written timestamp is read by every reader of digits. -/
theorem dashedDate_text {value? : Char → Option Nat} (reads : ReadsDigits value?) (w : WrittenStamp)
    : dashedDate value? w.text
      = some (w.year.number, w.month.values, w.day.values, w.timeText) := by
  have yearRead := someDigits_append reads w.year
    ('-' :: (w.month.chars ++ '-' :: (w.day.chars ++ w.timeText)))
    ⟨w.year_length.ge, w.year_length.le⟩ (.inl w.year_length)
  have monthRead := someDigits_append reads w.month ('-' :: (w.day.chars ++ w.timeText))
    w.month_range (.inr (endsDigits_cons.mpr (by decide)))
  have dayRead := someDigits_append reads w.day w.timeText w.day_range (.inr w.endsDigits_timeText)
  simp [dashedDate, WrittenStamp.text, yearRead, monthRead, dayRead, Digits.number]

/-- The texts with the parts of a native timestamp are the written timestamps. -/
theorem nativeParts_eq_some_iff {p : NativeParts}
    : nativeParts s = some p
      ↔ ∃ w : WrittenStamp, w.text = withoutLastLineFeed s ∧ w.parts = p := by
  unfold nativeParts
  constructor
  · intro read
    obtain ⟨⟨_, _, _, s5⟩, dateRead, read⟩ := Option.bind_eq_some_iff.mp read
    obtain ⟨⟨_, s1⟩, yearRead, dateRead⟩ := Option.bind_eq_some_iff.mp dateRead
    obtain ⟨s2, dash, dateRead⟩ := Option.bind_eq_some_iff.mp dateRead
    obtain ⟨⟨_, s3⟩, monthRead, dateRead⟩ := Option.bind_eq_some_iff.mp dateRead
    obtain ⟨s4, dash', dateRead⟩ := Option.bind_eq_some_iff.mp dateRead
    obtain ⟨⟨_, _⟩, dayRead, dateRead⟩ := Option.bind_eq_some_iff.mp dateRead
    cases dateRead
    obtain ⟨year, split, rfl, four, atMost⟩ := exists_digits_of_someDigits yearRead
    cases after_eq_some_iff.mp dash
    obtain ⟨month, rfl, rfl, monthRange⟩ := exists_digits_of_someDigits monthRead
    cases after_eq_some_iff.mp dash'
    obtain ⟨day, rfl, rfl, dayRange⟩ := exists_digits_of_someDigits dayRead
    have length : year.length = 4 := le_antisymm atMost four
    simp only at read
    split at read
    case isTrue bare =>
      cases List.isEmpty_iff.mp bare
      refine ⟨⟨year, month, day, none, length, monthRange, dayRange⟩, split.symm, ?_⟩
      rw [← Option.some.inj read]
      simp [WrittenStamp.parts, Digits.number]
    case isFalse =>
      obtain ⟨_, timeRead, read⟩ := Option.bind_eq_some_iff.mp read
      obtain ⟨t, rfl, rfl⟩ := nativeTime_eq_some_iff.mp timeRead
      refine ⟨⟨year, month, day, some t, length, monthRange, dayRange⟩, split.symm, ?_⟩
      rw [← Option.some.inj read]
      simp [WrittenStamp.parts, Digits.number]
  · rintro ⟨w, text, rfl⟩
    rw [← text, dashedDate_text readsDigits_ascii]
    cases time : w.time with
    | none => simp [WrittenStamp.timeText, WrittenStamp.parts, time, Digits.number]
    | some t =>
        have timeRead := nativeTime_eq_some_iff.mpr ⟨t, rfl, rfl⟩
        simp [WrittenStamp.timeText, WrittenStamp.parts, time, t.text_ne_nil, timeRead,
          Digits.number]

end BlogSnapshot.Calendar
