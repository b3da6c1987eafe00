import BlogSnapshot.Calendar.IsoReader
import BlogSnapshot.Text.Blank
import BlogSnapshot.Text.DecimalDigit

/-! Reading moments by pattern. Written dates allow one-digit months and days and digits of any
script; native timestamps are those that a data format builds itself from a plain scalar.
-/

namespace BlogSnapshot.Calendar

open Text

/-- The digits at the head of a text, at most `most` of them, and the rest. -/
def headDigits (value? : Char → Option Nat) : Nat → List Char → List Nat × List Char
  | 0, s => ([], s)
  | _ + 1, [] => ([], [])
  | most + 1, c :: rest =>
      match value? c with
      | none => ([], c :: rest)
      | some d =>
          let (ds, tail) := headDigits value? most rest
          (d :: ds, tail)

/-- Between `least` and `most` digits, as many as there are. -/
def someDigits (value? : Char → Option Nat) (least most : Nat) (s : List Char)
    : Option (List Nat × List Char) :=
  let (ds, rest) := headDigits value? most s
  if least ≤ ds.length then some (ds, rest) else none

/-- The rest of the text after a character of the given kind. -/
def after (p : Char → Bool) : List Char → Option (List Char)
  | c :: rest => if p c then some rest else none
  | [] => none

/-- Six digits of a fraction, missing ones being zero. -/
def sixDigits (ds : List Nat) : Nat :=
  ofDigits (ds.take 6) * Nat.pow 10 (6 - ds.length)

/-- Year of four digits, month and day of one or two, with dashes between them. -/
def dashedDate (value? : Char → Option Nat) (s : List Char)
    : Option (Nat × List Nat × List Nat × List Char) := do
  let (year, s) ← someDigits value? 4 4 s
  let s ← after (· = '-') s
  let (month, s) ← someDigits value? 1 2 s
  let s ← after (· = '-') s
  let (day, s) ← someDigits value? 1 2 s
  some (ofDigits year, month, day, s)

/-- Seconds with an optional fraction of at most twelve digits. -/
def writtenSeconds (s : List Char) : Option ((Nat × Nat) × List Char) :=
  match s with
  | ':' :: t =>
      match someDigits decimalValue? 1 2 t with
      | none => some ((0, 0), s)
      | some (second, t) =>
          match after (fun c => c = '.' || c = ',') t with
          | none => some ((ofDigits second, 0), t)
          | some u =>
              match someDigits decimalValue? 1 12 u with
              | none => some ((ofDigits second, 0), t)
              | some (ds, u) => some ((ofDigits second, sixDigits ds), u)
  | _ => some ((0, 0), s)

/-- The minutes of an offset after its hours: nothing, or two digits, perhaps after a colon. -/
def writtenMinutes : List Char → Option Nat
  | [] => some 0
  | c :: s => do
      let (minutes, s) ← someDigits decimalValue? 2 2 (if c = ':' then s else c :: s)
      if s.isEmpty then some (ofDigits minutes) else none

/-- An offset in minutes: nothing, `Z`, or a sign with hours and perhaps minutes of two
digits.
-/
def writtenOffset : List Char → Option (Option Int)
  | [] => some none
  | ['Z'] => some (some 0)
  | sign :: s => do
      if sign ≠ '+' && sign ≠ '-' then none
      else
        let (hours, s) ← someDigits decimalValue? 2 2 s
        let minutes ← writtenMinutes s
        let total : Int := 60 * ofDigits hours + minutes
        some (some (if sign = '-' then -total else total))

/-- The offset of so many minutes, if any are written. -/
def offsetOf : Option Int → Except CalendarFault (Option Offset)
  | none => .ok none
  | some minutes => some <$> Offset.of (minutes * 60 * microsPerSecond)

/-- The moment of a written date and time of at least hours and minutes. -/
def readWritten (s : List Char) : Option Moment := do
  let (year, month, day, s) ← dashedDate decimalValue? s
  let s ← after (fun c => c = 'T' || c = ' ') s
  let (hour, s) ← someDigits decimalValue? 1 2 s
  let s ← after (· = ':') s
  let (minute, s) ← someDigits decimalValue? 1 2 s
  let ((second, micro), s) ← writtenSeconds s
  let minutes? ← writtenOffset (s.dropWhile isBlank)
  let offset ← (offsetOf minutes?).toOption
  let date ← (Date.of year (ofDigits month) (ofDigits day)).toOption
  let clock ← (Clock.of (ofDigits hour) (ofDigits minute) second micro).toOption
  some { date, clock, offset }

/-- The midnight of a written date. -/
def readWrittenDate (s : List Char) : Option Moment := do
  let (year, month, day, s) ← dashedDate decimalValue? s
  if s.isEmpty then
    let date ← (Date.of year (ofDigits month) (ofDigits day)).toOption
    some { date }
  else none

/-- The midnight of the date that a text denotes: an ISO form, else a written date. -/
def readDate (s : List Char) : Option Moment :=
  ((readIsoDate s).map fun date => { date }).or (readWrittenDate s)

/-- The moment that a text denotes: an ISO form, else a written date and time, else a date. -/
def readMoment (s : List Char) : Option Moment :=
  (readIso s).or ((readWritten s).or (readDate s))

/-- Time and zone of a native timestamp: hour, minute, second, digits of the fraction, and an
offset in minutes.
-/
structure NativeTime where
  hour : Nat
  minute : Nat
  second : Nat
  fraction : List Nat
  zone : Option Int
  deriving DecidableEq, Repr

/-- The parts of a native timestamp; `full` says that month and day have two digits each. -/
structure NativeParts where
  year : Nat
  month : Nat
  day : Nat
  full : Bool
  time : Option NativeTime
  deriving DecidableEq, Repr

/-- What a native timestamp denotes: a day, or a moment with or without offset. -/
inductive Stamp
  | date (d : Date)
  | moment (m : Moment)
  deriving DecidableEq, Repr

/-- The minutes of a zone after its hours: nothing, or a colon and two digits. -/
def nativeMinutes : List Char → Option Nat
  | [] => some 0
  | c :: s => do
      if c ≠ ':' then none
      else
        let (minutes, s) ← someDigits asciiDigit? 2 2 s
        if s.isEmpty then some (ofDigits minutes) else none

/-- The zone at the end of a native timestamp. -/
def nativeZone : List Char → Option (Option Int)
  | [] => some none
  | ['Z'] => some (some 0)
  | sign :: s => do
      if sign ≠ '+' && sign ≠ '-' then none
      else
        let (hours, s) ← someDigits asciiDigit? 1 2 s
        let minutes ← nativeMinutes s
        let total : Int := 60 * ofDigits hours + minutes
        some (some (if sign = '-' then -total else total))

def isSpaceOrTab (c : Char) : Bool :=
  c = ' ' || c = '\t'

/-- The text after what separates the time of a native timestamp from its date. -/
def afterGap : List Char → Option (List Char)
  | 'T' :: s => some s
  | 't' :: s => some s
  | c :: s => if isSpaceOrTab c then some (s.dropWhile isSpaceOrTab) else none
  | [] => none

/-- The digits of the fraction after the seconds, and the rest. -/
def nativeFraction : List Char → List Nat × List Char
  | '.' :: s => headDigits asciiDigit? s.length s
  | s => ([], s)

/-- The zone after blanks, or no zone where the text ends; it does not end in blanks. -/
def zoneAfterBlanks (s : List Char) : Option (Option Int) :=
  let rest := s.dropWhile isSpaceOrTab
  if rest.isEmpty && !s.isEmpty then none else nativeZone rest

/-- The time of a native timestamp with what separates it from the date. -/
def nativeTime (s : List Char) : Option NativeTime := do
  let s ← afterGap s
  let (hour, s) ← someDigits asciiDigit? 1 2 s
  let s ← after (· = ':') s
  let (minute, s) ← someDigits asciiDigit? 2 2 s
  let s ← after (· = ':') s
  let (second, s) ← someDigits asciiDigit? 2 2 s
  let (fraction, s) := nativeFraction s
  let zone ← zoneAfterBlanks s
  some ⟨ofDigits hour, ofDigits minute, ofDigits second, fraction, zone⟩

/-- The text without one line feed at its end. -/
def withoutLastLineFeed (s : List Char) : List Char :=
  if s.getLast? = some '\n' then s.dropLast else s

/-- The parts of a native timestamp, or nothing if the text is none. -/
def nativeParts (s : List Char) : Option NativeParts := do
  let (year, month, day, s) ← dashedDate asciiDigit? (withoutLastLineFeed s)
  let full := month.length = 2 && day.length = 2
  if s.isEmpty then some ⟨year, ofDigits month, ofDigits day, full, none⟩
  else
    let time ← nativeTime s
    some ⟨year, ofDigits month, ofDigits day, full, some time⟩

/-- Plain text is read as a timestamp when it matches the native form and a bare date has
two-digit month and day.
-/
def isNativeStamp (s : List Char) : Bool :=
  (nativeParts s).any fun p => p.time.isSome || p.full

/-- The day or moment of native parts. An impossible offset is reported before an impossible
date.
-/
def NativeParts.stamp (p : NativeParts) : Except CalendarFault Stamp :=
  match p.time with
  | none => (Date.of p.year p.month p.day).map .date
  | some t => do
      let offset ← offsetOf t.zone
      let date ← Date.of p.year p.month p.day
      let clock ← Clock.of t.hour t.minute t.second (sixDigits t.fraction)
      pure (.moment { date, clock, offset })

end BlogSnapshot.Calendar
