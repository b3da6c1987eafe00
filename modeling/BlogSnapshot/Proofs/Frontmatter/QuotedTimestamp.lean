import BlogSnapshot.Calendar.Format
import BlogSnapshot.Proofs.Calendar.IsoForm
import BlogSnapshot.Proofs.Frontmatter.Timestamp

/-! Timestamps with and without quotes. A plain scalar that looks like a native timestamp is built
as a day or a moment, and the same text in quotes stays text, which the reader of the field spells
out by grammars of its own. Where both are read, they are read as the same moment.
-/

namespace BlogSnapshot

open Calendar Text

-----------------------------------------------------------------------------------------
-- Trimming
-----------------------------------------------------------------------------------------

theorem endsSolid_digits (d : Digits) : EndsSolid d.chars :=
  endsSolid_of_forall fun c member => not_isBlank_of_isDigit (d.isDigit c member)

theorem endsSolid_zone (z : WrittenZone) : EndsSolid z.text := by
  cases z with
  | universal => exact .cons (by decide) nofun
  | offset behind hours minutes _ _ =>
      refine .cons (by cases behind <;> decide) (.append (fun _ => endsSolid_digits hours) ?_)
      cases minutes with
      | none => exact nofun
      | some m => exact .cons (by decide) (endsSolid_digits m)

theorem endsSolid_time (t : WrittenTime) : EndsSolid t.text := by
  have fraction : EndsSolid t.fractionText := by
    unfold WrittenTime.fractionText
    cases t.fraction with
    | none => exact nofun
    | some ds => exact .cons (by decide) (endsSolid_digits ds)
  have zone : EndsSolid t.zoneText := by
    unfold WrittenTime.zoneText WrittenTime.zoneBlanks WrittenTime.zoneMark
    cases t.zone with
    | none => exact nofun
    | some z =>
        obtain ⟨c, rest, text, _⟩ := z.2.exists_text_eq
        exact .append (by simp [text]) (endsSolid_zone z.2)
  obtain ⟨c, rest, text, _⟩ := t.hour.exists_cons t.hour_range.1
  refine .append (by simp [WrittenTime.clockText]) ?_
  refine .append (fun _ => endsSolid_digits t.hour) (.cons (by decide) ?_)
  refine .append (fun _ => endsSolid_digits t.minute) (.cons (by decide) ?_)
  exact .append (fun _ => endsSolid_digits t.second) (.append (fun _ => fraction) zone)

theorem endsSolid_stamp (w : WrittenStamp) : EndsSolid w.text := by
  refine .append (fun _ => endsSolid_digits w.year) (.cons (by decide) ?_)
  refine .append (fun _ => endsSolid_digits w.month) (.cons (by decide) ?_)
  refine .append (fun _ => endsSolid_digits w.day) ?_
  unfold WrittenStamp.timeText
  cases w.time with
  | none => exact nofun
  | some t => exact endsSolid_time t

/-- Trimming a written timestamp, or one with a line feed at its end, leaves the timestamp. -/
theorem trim_of_stamp {w : WrittenStamp} {s : List Char} (text : w.text = withoutLastLineFeed s)
    : trim s = w.text := by
  obtain ⟨c, rest, year, digit⟩ := w.year.exists_cons (by rw [w.year_length]; decide)
  obtain ⟨tail, chars⟩ : ∃ tail, w.text = c :: tail := ⟨_, by rw [WrittenStamp.text, year]; rfl⟩
  have ends : EndsSolid (c :: tail) := chars ▸ endsSolid_stamp w
  have starts : isBlank c = false := not_isBlank_of_isDigit digit
  rw [chars] at text ⊢
  unfold withoutLastLineFeed at text
  split at text
  case isTrue lineFeed =>
    have whole : s = c :: tail ++ ['\n'] := by
      rw [text, List.dropLast_append_getLast? _ lineFeed]
    rw [whole]
    exact trim_append starts ends (List.forall_mem_singleton.mpr (by decide))
  case isFalse =>
    have trimmed : trim (c :: tail ++ []) = c :: tail :=
      trim_append starts ends (List.forall_mem_nil _)
    rw [← text]
    rwa [List.append_nil] at trimmed

-----------------------------------------------------------------------------------------
-- Scalars
-----------------------------------------------------------------------------------------

namespace Yaml

/-- A text that looks like a native timestamp is a written one, up to a line feed at its end. -/
theorem exists_stamp_of_isNativeStamp {s : List Char} (isStamp : isNativeStamp s = true)
    : ∃ w : WrittenStamp, w.text = withoutLastLineFeed s := by
  obtain ⟨p, parts, _⟩ := (Option.any_eq_true _ _).mp isStamp
  obtain ⟨w, text, _⟩ := nativeParts_eq_some_iff.mp parts
  exact ⟨w, text⟩

/-- A plain scalar that looks like a native timestamp has the tag of one: it begins with a digit,
which no spelling of the absent value does.
-/
theorem Tag.ofPlain_of_isNativeStamp {s : String} (isStamp : isNativeStamp s.toList = true)
    : Tag.ofPlain s = Tag.timestamp := by
  obtain ⟨w, text⟩ := exists_stamp_of_isNativeStamp isStamp
  obtain ⟨c, rest, year, digit⟩ := w.year.exists_cons (by rw [w.year_length]; decide)
  have word : withoutLastLineFeed s.toList = c :: (rest ++ '-' :: (w.month.chars ++ '-' ::
      (w.day.chars ++ w.timeText))) := by
    rw [← text, WrittenStamp.text, year]
    rfl
  have nonempty : s.toList ≠ [] := by
    intro nothing
    rw [nothing] at word
    cases word
  have noWord : isNullWord (withoutLastLineFeed s.toList) = false := by
    have other (letter : Char) (noDigit : letter.isDigit = false) : c ≠ letter :=
      ne_of_isDigit digit noDigit
    simp [word, isNullWord, other '~' rfl, other 'n' rfl, other 'N' rfl]
  simp [Tag.ofPlain, noWord, isStamp, nonempty]

variable {d : Document} {store : Value.Store} {s : String} {start : Mark} {v : Value}

/-- The node of a scalar without a tag of its own, plain or in quotes. -/
def untagged (text : String) (plain : Bool) (start : Mark) : Node :=
  .scalar (Node.scalarTag text plain none) text start

namespace Value

/-- The only tag that changes is that of a default entry. -/
theorem Store.tag_of_ne {n : Node} (other : n.tag ≠ Tag.value) : store.tag n = n.tag := by
  simp [Store.tag, other]

/-- A scalar whose tag is or has become that of text is built as its text. -/
theorem leaf_of_tag_str {tag : String} (isText : store.tag (.scalar tag s start) = Tag.str)
    : leaf d store (.scalar tag s start) = .ok (.text s) := by
  simp [leaf, isText, scalarText, Except.map]

end Value

theorem leaf_quoted : Value.leaf d store (untagged s false start) = .ok (.text s) := by
  have other : Tag.str ≠ Tag.value := by decide
  exact Value.leaf_of_tag_str (Value.Store.tag_of_ne other)

/-- The day or moment of a stamp. -/
def Value.ofStamp : Calendar.Stamp → Value
  | .date d => .date d
  | .moment m => .moment m

/-- A plain scalar that looks like a native timestamp is built as one. -/
theorem exists_stamp_of_leaf_plain (isStamp : isNativeStamp s.toList = true)
    (built : Value.leaf d store (untagged s true start) = .ok v)
    : ∃ p st, nativeParts s.toList = some p ∧ p.stamp = .ok st ∧ v = .ofStamp st := by
  have isTimestamp : Node.scalarTag s true none = Tag.timestamp :=
    Tag.ofPlain_of_isNativeStamp isStamp
  have other : Tag.timestamp ≠ Tag.value := by decide
  have tag : store.tag (.scalar Tag.timestamp s start) = Tag.timestamp :=
    Value.Store.tag_of_ne other
  have read : Scalar.timestamp s.toList = .ok v := by
    rw [untagged, isTimestamp, Value.leaf, tag] at built
    rw [← mapError_eq_ok_iff Failure.fault]
    exact built
  unfold Scalar.timestamp at read
  split at read
  case h_1 => cases read
  case h_2 p parts =>
    refine ⟨p, ?_⟩
    split at read
    case h_1 => cases read
    case h_2 d stamp =>
      cases read
      exact ⟨.date d, parts, stamp, rfl⟩
    case h_3 m stamp =>
      cases read
      exact ⟨.moment m, parts, stamp, rfl⟩

end Yaml

namespace Frontmatter.Fields

variable {f g : Fields} {key other : String} {v : Yaml.Value} {m n : Moment}

/-- A field has a value and is read as a moment, as one that must be there or as one that may be
absent.
-/
def Reads (f : Fields) (key : String) (v : Yaml.Value) (m : Moment) : Prop :=
  f.get key = v ∧ (f.timestamp key = .ok m ∨ f.timestamp? key = .ok (some m))

/-- A field that is read as a moment has a value that denotes one with the same universal time. -/
theorem Reads.exists_moment (reads : f.Reads key v m)
    : ∃ n, momentOf? v = some n ∧ n.toUtc = .ok m := by
  obtain ⟨found, reads⟩ := reads
  have read : f.timestampOf key v = .ok m := by
    by_cases isThere : v = .null
    case pos =>
      rw [isThere] at found
      simp [timestamp, timestamp?, found] at reads
    case neg =>
      obtain ⟨required, optional⟩ := timestamp_of_get found isThere
      rw [required, optional, map_eq_ok_iff] at reads
      rcases reads with read | ⟨_, read, same⟩
      · exact read
      · rwa [Option.some.inj same] at read
  unfold timestampOf at read
  split at read
  case h_1 n denotes => exact ⟨n, denotes, (mapError_eq_ok_iff _ _ _).mp read⟩
  case h_2 => split at read <;> cases read

/-- What quoting a timestamp keeps: the plain text is a day or a moment and the quoted one is a
text, but both are read as the same moment, in universal time and at the instant that is written.
-/
structure SameMoment (s : String) (plain quoted : Yaml.Value) (m n : Moment) : Prop where
  isNative : ∃ st, plain = .ofStamp st
  isText : quoted = .text s
  same : m = n
  universal : m.offset = some .utc
  isWritten : ∃ w : WrittenStamp, w.text = withoutLastLineFeed s.toList
  instant : ∀ w : WrittenStamp, w.text = withoutLastLineFeed s.toList → m.instant = w.instant

/-- Quoting a timestamp does not change what it is read as, wherever it is read with and without
quotes.
-/
theorem sameMoment_of_quoted {s : String} {d e : Yaml.Document} {store later : Yaml.Value.Store}
    {start elsewhere : Yaml.Mark} {plain quoted : Yaml.Value}
    (isStamp : isNativeStamp s.toList = true)
    (builtPlain : Yaml.Value.leaf d store (Yaml.untagged s true start) = .ok plain)
    (builtQuoted : Yaml.Value.leaf e later (Yaml.untagged s false elsewhere) = .ok quoted)
    (readPlain : f.Reads key plain m) (readQuoted : g.Reads other quoted n)
    : SameMoment s plain quoted m n := by
  obtain ⟨p, st, parts, stamp, rfl⟩ := Yaml.exists_stamp_of_leaf_plain isStamp builtPlain
  cases Yaml.leaf_quoted.symm.trans builtQuoted
  -- Whatever pieces the text is made up of, the native value denotes their moment.
  have denoted (w : WrittenStamp) (text : w.text = withoutLastLineFeed s.toList)
      : w.Denotes st.toMoment := by
    have ofPieces := nativeParts_eq_some_iff.mpr ⟨w, text, rfl⟩
    cases Option.some.inj (ofPieces.symm.trans parts)
    exact denotes_of_stamp stamp
  obtain ⟨w, text⟩ := Yaml.exists_stamp_of_isNativeStamp isStamp
  obtain ⟨k, native, universal⟩ := readPlain.exists_moment
  have isStamp : k = st.toMoment := by
    cases st <;> exact (Option.some.inj native).symm
  subst isStamp
  obtain ⟨k, spelled, universal'⟩ := readQuoted.exists_moment
  rw [momentOf?, trim_of_stamp text] at spelled
  have same := (denoted w text).toUtc_eq (denotes_of_readMoment spelled)
  obtain ⟨_, offset, instant⟩ := Moment.of_toUtc universal
  exact {
    isNative := ⟨st, rfl⟩
    isText := rfl
    same := Except.ok.inj (universal.symm.trans (same.trans universal'))
    universal := offset
    isWritten := ⟨w, text⟩
    instant := fun w text => instant.trans (denoted w text).instant_eq
  }

/-- The last hour of a leap day, written with blanks, seven digits of a fraction and an offset. -/
def leapDayText : String :=
  "2024-02-29 23:30:00.1234567 -01:00"

/-- Built as a moment or left a text, the last hour of a leap day is the first of the next day in
universal time.
-/
theorem sameMoment_leapDay
    : ∃ m utc : Moment,
        m.iso = "2024-02-29T23:30:00.123456-01:00"
        ∧ utc.iso = "2024-03-01T00:30:00.123456+00:00"
        ∧ isNativeStamp leapDayText.toList = true
        ∧ (single "published_at" (.moment m)).Reads "published_at" (.moment m) utc
        ∧ (single "published_at" (.text leapDayText)).Reads "published_at" (.text leapDayText) utc
        ∧ SameMoment leapDayText (.moment m) (.text leapDayText) utc utc := by
  have isStamp : isNativeStamp leapDayText.toList = true := by decide +kernel
  have builtQuoted : Yaml.Value.leaf ⟨.aliasTo "", []⟩ {} (Yaml.untagged leapDayText false {})
      = .ok (.text leapDayText) := rfl
  have reads (m utc : Moment)
      (builtPlain : Yaml.Value.leaf ⟨.aliasTo "", []⟩ {} (Yaml.untagged leapDayText true {})
        = .ok (.moment m))
      (readPlain : (single "published_at" (.moment m)).Reads "published_at" (.moment m) utc)
      (readQuoted : (single "published_at" (.text leapDayText)).Reads "published_at"
        (.text leapDayText) utc) :=
    sameMoment_of_quoted isStamp builtPlain builtQuoted readPlain readQuoted
  refine ⟨{
    date := ⟨2024, 2, 29, by decide, by decide, by decide⟩
    clock := { hour := 23, minute := 30, micro := 123456 }
    offset := some ⟨-3600000000, by decide⟩
  }, {
    date := ⟨2024, 3, 1, by decide, by decide, by decide⟩
    clock := { minute := 30, micro := 123456 }
    offset := some .utc
  }, by decide +kernel, by decide +kernel, isStamp, ⟨rfl, .inl rfl⟩, ⟨rfl, .inl rfl⟩, ?_⟩
  exact reads _ _ rfl ⟨rfl, .inl rfl⟩ ⟨rfl, .inl rfl⟩

end Frontmatter.Fields

end BlogSnapshot
