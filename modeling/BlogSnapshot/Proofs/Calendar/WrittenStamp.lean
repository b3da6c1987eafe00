import BlogSnapshot.Proofs.Calendar.Digits
import BlogSnapshot.Proofs.Text.Split

/-! Native timestamps piece by piece: the pieces as they are written, the text that they make up and
the instant that they denote. A text has the parts of a native timestamp exactly if it is made up of
such pieces.
-/

namespace BlogSnapshot.Calendar

open Text

-----------------------------------------------------------------------------------------
-- Pieces
-----------------------------------------------------------------------------------------

/-- The zone at the end of a timestamp: universal time, or hours and perhaps minutes that the clock
is ahead of universal time or behind it.
-/
inductive WrittenZone
  | universal
  | offset (behind : Bool) (hours : Digits) (minutes : Option Digits)
      (hours_range : 1 ≤ hours.length ∧ hours.length ≤ 2)
      (minutes_range : ∀ m ∈ minutes, m.length = 2)

namespace WrittenZone

/-- The characters of minutes after hours. -/
def minutesText (minutes : Option Digits) : List Char :=
  minutes.elim [] fun m => ':' :: m.chars

def text : WrittenZone → List Char
  | universal => ['Z']
  | offset behind hours minutes _ _ =>
      (if behind then '-' else '+') :: (hours.chars ++ minutesText minutes)

/-- The minutes that the clock is ahead of universal time. -/
def minutes : WrittenZone → Int
  | universal => 0
  | offset behind hours minutes _ _ =>
      let total : Int := 60 * hours.number + (minutes.elim 0 Digits.number : Nat)
      if behind then -total else total

end WrittenZone

/-- What may separate the time from the date: a letter, or blanks. -/
def IsGap (gap : List Char) : Prop :=
  gap = ['T'] ∨ gap = ['t'] ∨ (gap ≠ [] ∧ ∀ c ∈ gap, isSpaceOrTab c = true)

/-- The time of a timestamp with what separates it from the date; blanks may stand before a zone. -/
structure WrittenTime where
  gap : List Char
  hour : Digits
  minute : Digits
  second : Digits
  fraction : Option Digits
  zone : Option (List Char × WrittenZone)
  isGap : IsGap gap
  hour_range : 1 ≤ hour.length ∧ hour.length ≤ 2
  minute_length : minute.length = 2
  second_length : second.length = 2
  blanks : ∀ z ∈ zone, ∀ c ∈ z.1, isSpaceOrTab c = true

namespace WrittenTime

variable (t : WrittenTime)

/-- The characters of a fraction after its point. -/
def fractionText : List Char :=
  t.fraction.elim [] fun ds => '.' :: ds.chars

/-- The blanks before the zone. -/
def zoneBlanks : List Char :=
  t.zone.elim [] (·.1)

/-- The characters of the zone. -/
def zoneMark : List Char :=
  t.zone.elim [] (·.2.text)

/-- The characters of the zone with the blanks before it. -/
def zoneText : List Char :=
  t.zoneBlanks ++ t.zoneMark

/-- The characters from the hour on. -/
def clockText : List Char :=
  t.hour.chars ++ ':' :: (t.minute.chars ++ ':' :: (t.second.chars
    ++ (t.fractionText ++ t.zoneText)))

def text : List Char :=
  t.gap ++ t.clockText

/-- The parts that the pieces are read as. -/
def parts : NativeTime where
  hour := t.hour.number
  minute := t.minute.number
  second := t.second.number
  fraction := t.fraction.elim [] Digits.values
  zone := t.zone.map (·.2.minutes)

/-- Microseconds of the fraction. -/
def micros : Nat :=
  t.fraction.elim 0 Digits.micros

/-- Microseconds from midnight to the reading of the clock. -/
def clockMicros : Nat :=
  ((t.hour.number * 60 + t.minute.number) * 60 + t.second.number) * microsPerSecond + t.micros

/-- Microseconds that the clock is ahead of universal time, which it shows if no zone is written. -/
def shift : Int :=
  t.zone.elim 0 fun z => z.2.minutes * 60 * microsPerSecond

end WrittenTime

/-- A timestamp: a date and perhaps a time. -/
structure WrittenStamp where
  year : Digits
  month : Digits
  day : Digits
  time : Option WrittenTime
  year_length : year.length = 4
  month_range : 1 ≤ month.length ∧ month.length ≤ 2
  day_range : 1 ≤ day.length ∧ day.length ≤ 2

namespace WrittenStamp

variable (w : WrittenStamp)

/-- The characters of the time, if there is one. -/
def timeText : List Char :=
  w.time.elim [] WrittenTime.text

def text : List Char :=
  w.year.chars ++ '-' :: (w.month.chars ++ '-' :: (w.day.chars ++ w.timeText))

/-- The parts that the pieces are read as. -/
def parts : NativeParts where
  year := w.year.number
  month := w.month.number
  day := w.day.number
  full := w.month.length = 2 && w.day.length = 2
  time := w.time.map WrittenTime.parts

/-- Days from the start of the year 1 to the start of the date. -/
def days : Nat :=
  daysBeforeYear w.year.number + daysBeforeMonth w.year.number w.month.number + w.day.number - 1

/-- Microseconds from the start of the year 1, in universal time, to the moment that is written: its
wall clock reading, midnight for a bare date, less the offset.
-/
def instant : Int :=
  w.days * microsPerDay + w.time.elim 0 fun t => t.clockMicros - t.shift

end WrittenStamp

-----------------------------------------------------------------------------------------
-- Where digits end
-----------------------------------------------------------------------------------------

theorem isSpaceOrTab_iff {c : Char} : isSpaceOrTab c = true ↔ c = ' ' ∨ c = '\t' := by
  simp [isSpaceOrTab]

theorem endsDigits_of_isSpaceOrTab {c : Char} {s : List Char} (blank : isSpaceOrTab c = true)
    : EndsDigits (c :: s) := by
  rw [endsDigits_cons]
  rcases isSpaceOrTab_iff.mp blank with rfl | rfl <;> decide

theorem not_isSpaceOrTab_of_isDigit {c : Char} (isDigit : c.isDigit = true)
    : isSpaceOrTab c = false := by
  rw [isSpaceOrTab, Bool.or_eq_false_iff, decide_eq_false_iff_not, decide_eq_false_iff_not]
  exact ⟨ne_of_isDigit isDigit rfl, ne_of_isDigit isDigit rfl⟩

theorem WrittenZone.endsDigits_minutesText (minutes : Option Digits)
    : EndsDigits (minutesText minutes) := by
  cases minutes with
  | none => exact endsDigits_nil
  | some m => exact endsDigits_cons.mpr (by decide)

theorem WrittenZone.exists_text_eq (z : WrittenZone)
    : ∃ c rest, z.text = c :: rest ∧ (c = 'Z' ∨ c = '+' ∨ c = '-') := by
  cases z with
  | universal => exact ⟨'Z', [], rfl, .inl rfl⟩
  | offset behind hours minutes _ _ =>
      cases behind with
      | false => exact ⟨'+', _, rfl, .inr (.inl rfl)⟩
      | true => exact ⟨'-', _, rfl, .inr (.inr rfl)⟩

namespace WrittenTime

variable (t : WrittenTime)

theorem isSpaceOrTab_of_mem_zoneBlanks : ∀ c ∈ t.zoneBlanks, isSpaceOrTab c = true := by
  unfold zoneBlanks
  cases zone : t.zone with
  | none => exact nofun
  | some z => exact t.blanks z zone

theorem of_mem_head_zoneMark : ∀ c ∈ t.zoneMark.head?, c = 'Z' ∨ c = '+' ∨ c = '-' := by
  unfold zoneMark
  cases t.zone with
  | none => exact nofun
  | some z =>
      obtain ⟨c, rest, text, first⟩ := z.2.exists_text_eq
      rw [Option.elim_some, text]
      rintro _ ⟨⟩
      exact first

/-- The text of a zone begins with one of those, or with the blanks before it. -/
theorem of_mem_head_zoneText
    : ∀ c ∈ t.zoneText.head?, (c = 'Z' ∨ c = '+' ∨ c = '-') ∨ isSpaceOrTab c = true := by
  intro c first
  rw [zoneText, List.head?_append, Option.mem_def, Option.or_eq_some_iff] at first
  rcases first with blank | ⟨_, mark⟩
  · exact .inr (t.isSpaceOrTab_of_mem_zoneBlanks c (List.mem_of_mem_head? blank))
  · exact .inl (t.of_mem_head_zoneMark c mark)

theorem endsDigits_zoneText : EndsDigits t.zoneText := by
  intro c first
  rcases t.of_mem_head_zoneText c first with (rfl | rfl | rfl) | blank
  · decide
  · decide
  · decide
  · exact endsDigits_cons.mp (endsDigits_of_isSpaceOrTab blank (s := []))

/-- The time begins with no digit. -/
theorem exists_gap_eq : ∃ c rest, t.gap = c :: rest ∧ c.toNat < 0x80 ∧ c.isDigit = false := by
  rcases t.isGap with letter | letter | ⟨nonempty, blank⟩
  · exact ⟨'T', [], letter, by decide⟩
  · exact ⟨'t', [], letter, by decide⟩
  · obtain ⟨c, rest, gap⟩ := List.exists_cons_of_ne_nil nonempty
    have isBlank := blank c (by simp [gap])
    exact ⟨c, rest, gap, endsDigits_cons.mp (endsDigits_of_isSpaceOrTab (s := rest) isBlank)⟩

theorem text_ne_nil : t.text ≠ [] := by
  obtain ⟨c, rest, gap, _⟩ := t.exists_gap_eq
  simp [text, gap]

/-- What follows the first character of a time is the clock, or a blank. -/
theorem tail_text
    : t.text.tail = t.clockText ∨ ∃ c rest, t.text.tail = c :: rest ∧ isSpaceOrTab c = true := by
  rcases t.isGap with letter | letter | ⟨nonempty, blank⟩
  · exact .inl (by rw [text, letter]; rfl)
  · exact .inl (by rw [text, letter]; rfl)
  · rw [text]
    rcases gap : t.gap with _ | ⟨b, _ | ⟨c, rest⟩⟩
    · exact absurd gap nonempty
    · exact .inl rfl
    · exact .inr ⟨c, rest ++ t.clockText, rfl, blank c (by simp [gap])⟩

end WrittenTime

theorem WrittenStamp.endsDigits_timeText (w : WrittenStamp) : EndsDigits w.timeText := by
  unfold timeText
  cases w.time with
  | none => exact endsDigits_nil
  | some t =>
      obtain ⟨c, rest, gap, noDigit⟩ := t.exists_gap_eq
      rw [Option.elim_some, WrittenTime.text, gap, List.cons_append, endsDigits_cons]
      exact noDigit

end BlogSnapshot.Calendar
