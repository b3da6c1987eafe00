import BlogSnapshot.Proofs.Frontmatter.Timestamp
import BlogSnapshot.Proofs.Yaml.WrittenInteger

/-! What a whole number field is read as. Digits are recognized in the trimmed text but read from
the whole one, and the two do not agree on every text: separators are trimmed off and then refused,
and so are digits of which there are too many. Such a refusal is a fault, which names nothing.
-/

namespace BlogSnapshot.Frontmatter.Fields

open Text Yaml

variable {f : Fields} {key : String}

/-- The results of reading a value as a whole number: the number that it is or that its digits
denote, two faults of digits, and the error about a value that is neither a number nor digits.
-/
inductive IntegerResult (f : Fields) (key : String) (v : Yaml.Value)
    : Except Failure (Option Int) → Prop
  | absent (isNull : v = .null) : IntegerResult f key v (.ok none)
  | number {n : Int} (isInt : v = .int n) : IntegerResult f key v (.ok (some n))
  | digits {w : WrittenInteger} (isText : v = .text (String.ofList w.text))
      (clean : ∀ c ∈ w.before ++ w.after, isSeparator c = false)
      (few : w.digits.length ≤ maxDigits)
      : IntegerResult f key v (.ok (some w.value))
  | separated {w : WrittenInteger} (isText : v = .text (String.ofList w.text))
      (separator
        : (∃ c ∈ w.before, isSeparator c = true)
          ∨ w.digits.length ≤ maxDigits ∧ ∃ c ∈ w.after, isSeparator c = true)
      : IntegerResult f key v
          (.error (.fault (.scalar (.notInteger 10 (String.ofList w.text)))))
  | tooMany {w : WrittenInteger} (isText : v = .text (String.ofList w.text))
      (clean : ∀ c ∈ w.before, isSeparator c = false) (many : maxDigits < w.digits.length)
      : IntegerResult f key v (.error (.fault (.scalar (.tooManyDigits w.digits.length))))
  | refused {e : ContentError} (isThere : v ≠ .null) (noNumber : ∀ n, v ≠ .int n)
      (noDigits : ∀ w : WrittenInteger, v ≠ .text (String.ofList w.text))
      (cause : e.cause = .block (.shape (f.fieldName key) .integer))
      (field : e.field? = some (f.fieldName key))
      (path : e.path = f.path)
      : IntegerResult f key v (.error (.content e))

/-- A value that is no number is refused with the name of the field. -/
theorem integerResult_of_wrongShape {v : Yaml.Value} (isThere : v ≠ .null)
    (noNumber : ∀ n, v ≠ .int n)
    (noDigits : ∀ w : WrittenInteger, v ≠ .text (String.ofList w.text))
    : IntegerResult f key v (f.wrongShape key .integer) :=
  .refused isThere noNumber noDigits rfl rfl rfl

/-- Digits with blanks around them are read as an integer is. -/
theorem integer?_of_written {w : WrittenInteger}
    (found : f.get key = .text (String.ofList w.text))
    : f.integer? key
      = match Scalar.integer 10 w.text with
        | .ok n => .ok (some n)
        | .error fault => .error (.fault (.scalar fault)) := by
  have isNumber : (!w.digits.isEmpty && w.digits.all isDecimalDigit) = true := by
    have all := List.all_eq_true.mpr w.digits_decimal
    simp [all, w.digits_ne_nil]
  cases result : Scalar.integer 10 w.text <;>
    simp only [integer?, found, String.toList_ofList, w.trim_text, isNumber, ↓reduceIte, result]

/-- Digits with blanks around them are read with one of the results. -/
theorem integerResult_of_written {w : WrittenInteger}
    (found : f.get key = .text (String.ofList w.text))
    : IntegerResult f key (.text (String.ofList w.text)) (f.integer? key) := by
  rw [integer?_of_written found]
  by_cases before : ∃ c ∈ w.before, isSeparator c = true
  case pos =>
    rw [WrittenInteger.integer_of_separatorBefore before]
    exact .separated rfl (.inl before)
  case neg =>
    have clean : ∀ c ∈ w.before, isSeparator c = false := by simpa using before
    rw [WrittenInteger.integer_of_clean clean]
    split_ifs with many after
    · exact .tooMany rfl clean many
    · exact .separated rfl (.inr ⟨Nat.le_of_not_lt many, List.any_eq_true.mp after⟩)
    · have cleanToo : ∀ c ∈ w.after, isSeparator c = false := by simpa using after
      have around : ∀ c ∈ w.before ++ w.after, isSeparator c = false := by
        intro c member
        exact (List.mem_append.mp member).elim (clean c) (cleanToo c)
      exact .digits rfl around (Nat.le_of_not_lt many)

/-- Reading a whole number field has one of these results, by the value of the field. -/
theorem integerResult (f : Fields) (key : String)
    : IntegerResult f key (f.get key) (f.integer? key) := by
  cases found : f.get key with
  | null =>
      have read : f.integer? key = .ok none := by rw [integer?, found]
      exact read ▸ .absent rfl
  | int n =>
      have read : f.integer? key = .ok (some n) := by rw [integer?, found]
      exact read ▸ .number rfl
  | text s =>
      by_cases digits : trim s.toList ≠ [] ∧ ∀ c ∈ trim s.toList, isDecimalDigit c = true
      case pos =>
        obtain ⟨w, text⟩ := WrittenInteger.exists_text_eq digits.2 digits.1
        obtain rfl : s = String.ofList w.text := by rw [text, String.ofList_toList]
        exact integerResult_of_written found
      case neg =>
        have noDigits (w : WrittenInteger) : Yaml.Value.text s ≠ .text (String.ofList w.text) := by
          rintro ⟨⟩
          rw [String.toList_ofList, w.trim_text] at digits
          exact digits ⟨w.digits_ne_nil, w.digits_decimal⟩
        have read : f.integer? key = f.wrongShape key .integer := by
          rw [integer?, found]
          exact if_neg (by simpa using digits)
        exact read ▸ integerResult_of_wrongShape nofun nofun noDigits
  | _ =>
      have read : f.integer? key = f.wrongShape key .integer := by rw [integer?, found]
      exact read ▸ integerResult_of_wrongShape nofun nofun nofun

/-- More ones than are read as one number. -/
def tooManyOnes : WrittenInteger where
  before := []
  digits := List.replicate (maxDigits + 1) '1'
  after := []
  before_blank := List.forall_mem_nil _
  digits_decimal c member := by
    rw [(List.mem_replicate.mp member).2]
    decide
  digits_ne_nil := List.cons_ne_nil _ _
  after_blank := List.forall_mem_nil _

/-- Not every text that trimming leaves digits of is read as their number: a five after a separator
is no integer, and neither are more digits than are read as one number.
-/
theorem integer_faults
    : Text.trim ['\x1c', '5'] = ['5']
      ∧ (single "width" (.text "\x1c5")).integer? "width"
        = .error (.fault (.scalar (.notInteger 10 "\x1c5")))
      ∧ Text.trim tooManyOnes.text = List.replicate 4301 '1'
      ∧ (single "width" (.text (String.ofList tooManyOnes.text))).integer? "width"
        = .error (.fault (.scalar (.tooManyDigits 4301))) := by
  refine ⟨by decide, by decide +kernel, tooManyOnes.trim_text, ?_⟩
  have long : tooManyOnes.digits.length = 4301 := List.length_replicate
  rw [integer?_of_written rfl, WrittenInteger.integer_of_clean (List.forall_mem_nil _), long]
  rfl

end BlogSnapshot.Frontmatter.Fields
