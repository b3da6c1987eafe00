import BlogSnapshot.Calendar.Moment

/-! Reading the ISO forms of a moment: dates by month or by week, with or without dashes, any
one character between date and time, times with or without colons, and a trailing offset.
-/

namespace BlogSnapshot.Calendar

/-- The value of an ASCII digit. -/
def asciiDigit? (c : Char) : Option Nat :=
  if c.isDigit then some (c.toNat - 48) else none

/-- A number of exactly `count` ASCII digits, and the rest of the text. -/
def fixedNumber : Nat → Nat → List Char → Option (Nat × List Char)
  | 0, value, s => some (value, s)
  | _ + 1, _, [] => none
  | count + 1, value, c :: rest => do
      let d ← asciiDigit? c
      fixedNumber count (10 * value + d) rest

/-- The length of the date part. A dash at the end of a week may open the time instead of the
day of the week; a run of digits after a week is read in pairs from its end.
-/
def isoDateLength (s : List Char) : Nat :=
  if s.length = 7 then 7
  else if s[4]? = some '-' then
    if s[5]? = some 'W' then
      if s[8]? = some '-' && s.length ≠ 9 then
        if (s[10]?).any Char.isDigit then 8 else 10
      else 8
    else 10
  else if s[4]? = some 'W' then
    let stop := 7 + ((s.drop 7).takeWhile Char.isDigit).length
    if stop < 9 then stop else if stop % 2 = 0 then 7 else 8
  else 8

/-- Whether a year has a week 53: its first day is a Thursday, or a Wednesday in a leap year. -/
def hasLongWeekYear (year : Nat) : Bool :=
  let first := (daysBeforeYear year + 7) % 7
  first = 3 || (first = 2 && isLeap year)

/-- The date of a day of a week; week 1 holds the first Thursday of the year. -/
def dateOfWeek? (year week day : Nat) : Option Date :=
  if 1 ≤ year && year ≤ 9999 && 1 ≤ week && (week ≤ 52 || (week = 53 && hasLongWeekYear year))
      && 1 ≤ day && day ≤ 7 then
    let first := daysBeforeYear year + 1
    let weekday := (first + 6) % 7
    let monday : Int := (first : Int) - weekday + (if 3 < weekday then 7 else 0)
    (Date.ofDayNumber (monday + (week - 1) * 7 + (day - 1))).toOption
  else none

/-- The day of a week, Monday where none is written, with a dash before it iff the date has
dashes.
-/
def isoWeekDay (dashes : Bool) : List Char → Option Nat
  | [] => some 1
  | rest => do
      let rest ← if dashes then (if rest.head? = some '-' then some rest.tail else none)
        else some rest
      let (day, _) ← fixedNumber 1 0 rest
      some day

/-- The date at the head of a text. Of a week date, the text must hold the day if it goes on after
the week.
-/
def isoDate (s : List Char) : Option Date := do
  let (year, rest) ← fixedNumber 4 0 s
  let dashes := rest.head? = some '-'
  let rest := if dashes then rest.tail else rest
  match rest with
  | 'W' :: rest =>
      let (week, rest) ← fixedNumber 2 0 rest
      let day ← isoWeekDay dashes rest
      dateOfWeek? year week day
  | rest =>
      let (month, rest) ← fixedNumber 2 0 rest
      let rest ← if dashes then (if rest.head? = some '-' then some rest.tail else none)
        else some rest
      let (day, _) ← fixedNumber 2 0 rest
      (Date.of year month day).toOption

/-- The length of a text in bytes. -/
def byteLength : List Char → Nat
  | [] => 0
  | c :: rest => c.utf8Size + byteLength rest

/-- The date that a text of seven, eight or ten bytes starts with. -/
def readIsoDate (s : List Char) : Option Date :=
  if byteLength s = 7 || byteLength s = 8 || byteLength s = 10 then isoDate s else none

/-- Hour, minute, second and microsecond as written, and whether text was left over. -/
structure ClockFields where
  fields : List Nat
  micro : Nat := 0
  leftOver : Bool := false

/-- Whether text is left over at the end of a time. A zero character ends the text like nothing at
all.
-/
def isLeftOver : List Char → Bool
  | [] => false
  | c :: _ => c ≠ '\x00'

/-- The fraction of a second: up to six digits count and further digits are dropped. -/
def isoFraction (s : List Char) : Option ClockFields := do
  let count := min 6 s.length
  let (value, rest) ← fixedNumber count 0 s
  some ⟨[], value * Nat.pow 10 (6 - count), isLeftOver (rest.dropWhile Char.isDigit)⟩

/-- Fields of two digits, at most `count` of them; the first separator decides whether colons
stand between them. One ASCII character after a field is left over.
-/
def clockFields : Nat → Option Bool → List Char → Option ClockFields
  | 0, _, s => isoFraction s
  | count + 1, colons?, s => do
      let (value, rest) ← fixedNumber 2 0 s
      match rest with
      | [] => some ⟨[value], 0, false⟩
      | [c] => if c.toNat < 0x80 then some ⟨[value], 0, isLeftOver rest⟩ else none
      | c :: tail =>
          let colons := colons?.getD (c = ':')
          let more ←
            if colons && c = ':' then clockFields count (some colons) tail
            else if c = '.' || c = ',' then isoFraction tail
            else if !colons then clockFields count (some colons) rest
            else none
          some { more with fields := value :: more.fields }

namespace ClockFields

def hour (f : ClockFields) : Nat := f.fields[0]?.getD 0

def minute (f : ClockFields) : Nat := f.fields[1]?.getD 0

def second (f : ClockFields) : Nat := f.fields[2]?.getD 0

/-- The length of time that the fields denote, in microseconds. -/
def duration (f : ClockFields) : Int :=
  ((f.hour * 60 + f.minute) * 60 + f.second) * microsPerSecond + f.micro

/-- The time of day that the fields denote. -/
def clock? (f : ClockFields) : Option Clock :=
  (Clock.of f.hour f.minute f.second f.micro).toOption

end ClockFields

/-- Whether a character opens the offset. -/
def opensOffset (c : Char) : Bool :=
  c = '+' || c = '-' || c = 'Z'

/-- The offset, which must take the whole text. An offset of less than a second is none. -/
def isoOffset : List Char → Option Offset
  | ['Z'] => some .utc
  | c :: rest => do
      if c = 'Z' then (if isLeftOver rest then none else some .utc)
      else
        let f ← clockFields 3 none rest
        if f.leftOver then none
        else if f.hour = 0 && f.minute = 0 && f.second = 0 then some .utc
        else (Offset.of (if c = '-' then -f.duration else f.duration)).toOption
  | [] => none

/-- Time of day and offset. Text left over before an offset is passed over. -/
def isoClock (s : List Char) : Option (Clock × Option Offset) := do
  let f ← clockFields 3 none (s.takeWhile (!opensOffset ·))
  match s.dropWhile (!opensOffset ·) with
  | [] => if f.leftOver then none else f.clock?.map (·, none)
  | zone => do
      let clock ← f.clock?
      let offset ← isoOffset zone
      some (clock, some offset)

/-- The moment that an ISO text denotes; a bare date is its midnight. -/
def readIso (s : List Char) : Option Moment := do
  if s.length < 7 then none
  else
    let date ← isoDate (s.take (isoDateLength s))
    match s.drop (isoDateLength s) with
    | [] => some { date }
    | _ :: time =>
        let (clock, offset) ← isoClock time
        some { date, clock, offset }

end BlogSnapshot.Calendar
