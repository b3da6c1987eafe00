import BlogSnapshot.Frontmatter.Read
import BlogSnapshot.Proofs.Calendar.UniversalTime

/-! What a timestamp field is read as. A value that denotes a moment of the calendar is read as that
moment in universal time, and one that denotes none is refused with the name of the field. Moments
beyond the calendar and values that no message can show are faults, which name nothing.
-/

namespace BlogSnapshot.Frontmatter.Fields

variable {f : Fields} {key : String} {v : Yaml.Value}

/-- The results of reading a value as a timestamp: the moment in universal time at the instant that
the value denotes, the error about a value that denotes none, and the two faults.
-/
inductive TimestampResult (f : Fields) (key : String) (v : Yaml.Value)
    : Except Failure Moment → Prop
  | read {m u : Moment} (denotes : momentOf? v = some m) (inCalendar : m.InCalendar)
      (universal : u.offset = some .utc) (sameInstant : u.instant = m.instant)
      : TimestampResult f key v (.ok u)
  | refused {e : ContentError} (denotesNone : momentOf? v = none)
      (showable : v.isShowable = true)
      (cause : e.cause = .block (.timestamp (f.fieldName key) v.shown))
      (field : e.field? = some (f.fieldName key))
      (path : e.path = f.path)
      : TimestampResult f key v (.error (.content e))
  | beyondCalendar {m : Moment} (denotes : momentOf? v = some m) (beyond : ¬ m.InCalendar)
      : TimestampResult f key v (.error (.fault (.calendar .beyondRange)))
  | unshown (denotesNone : momentOf? v = none) (unshowable : v.isShowable = false)
      : TimestampResult f key v (.error (.fault (.scalar .unshownInteger)))

/-- Reading a value as a timestamp has one of these results, by what the value denotes. -/
theorem timestampResult (f : Fields) (key : String) (v : Yaml.Value)
    : TimestampResult f key v (f.timestampOf key v) := by
  unfold timestampOf
  split
  case h_1 m denotes =>
    by_cases inCalendar : m.InCalendar
    case pos =>
      obtain ⟨u, eq, universal, sameInstant⟩ := inCalendar.exists_toUtc_eq
      rw [toUtc, eq]
      exact .read denotes inCalendar universal sameInstant
    case neg =>
      rw [toUtc, Moment.toUtc_eq_error inCalendar]
      exact .beyondCalendar denotes inCalendar
  case h_2 denotesNone =>
    split
    case isTrue showable => exact .refused denotesNone showable rfl rfl rfl
    case isFalse unshowable => exact .unshown denotesNone (Bool.eq_false_iff.mpr unshowable)

/-- A timestamp that is there is read alike whether it must be there or not. -/
theorem timestamp_of_get (found : f.get key = v) (isThere : v ≠ .null)
    : f.timestamp key = f.timestampOf key v
      ∧ f.timestamp? key = (f.timestampOf key v).map some := by
  unfold timestamp timestamp?
  rw [found]
  cases v with
  | null => exact absurd rfl isThere
  | _ => exact ⟨rfl, rfl⟩

/-- A timestamp field that is there is read with one of the results. -/
theorem exists_timestampResult (found : f.get key = v) (isThere : v ≠ .null)
    : ∃ result,
        TimestampResult f key v result
        ∧ f.timestamp key = result
        ∧ f.timestamp? key = result.map some :=
  ⟨_, timestampResult f key v, timestamp_of_get found isThere⟩

/-- A mapping with a single entry. -/
def single (key : String) (v : Yaml.Value) : Fields where
  entries := [(.text key, v)]

theorem exists_timestampResult_newYear
    : (single "published_at" (.text "10000-01-01T00:00:00Z")).get "published_at"
        = .text "10000-01-01T00:00:00Z"
      ∧ ∃ result,
          TimestampResult (single "published_at" (.text "10000-01-01T00:00:00Z")) "published_at"
            (.text "10000-01-01T00:00:00Z") result
          ∧ (single "published_at" (.text "10000-01-01T00:00:00Z")).timestamp "published_at"
            = result
          ∧ (single "published_at" (.text "10000-01-01T00:00:00Z")).timestamp? "published_at"
            = result.map some :=
  ⟨rfl, exists_timestampResult rfl nofun⟩

/-- Not every timestamp that is refused is refused with the name of its field: one that denotes a
moment before the first year is a fault, and so is an integer of more digits than are shown.
-/
theorem timestamp_faults
    : (single "published_at" (.text "0001-01-01T00:00:00+01:00")).timestamp "published_at"
        = .error (.fault (.calendar .beyondRange))
      ∧ (single "published_at" (.int (.ofNat (Nat.pow 10 4300)))).timestamp "published_at"
        = .error (.fault (.scalar .unshownInteger)) := by
  constructor <;> decide +kernel

end BlogSnapshot.Frontmatter.Fields
