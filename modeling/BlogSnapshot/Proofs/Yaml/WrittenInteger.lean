import BlogSnapshot.Proofs.Calendar.Digits
import BlogSnapshot.Proofs.Text.Trimming
import BlogSnapshot.Yaml.Scalar

/-! Decimal digits with blanks around them, and the integers that they spell. Trimming takes all
blanks off, but a number may have only some of them around it: the four separators U+001C to U+001F
are blank and yet no spaces of a number.
-/

namespace BlogSnapshot.Yaml

open Text

/-- Decimal digits as they are written, of any script and with blanks around them. -/
structure WrittenInteger where
  before : List Char
  digits : List Char
  after : List Char
  before_blank : ∀ c ∈ before, isBlank c = true
  digits_decimal : ∀ c ∈ digits, isDecimalDigit c = true
  digits_ne_nil : digits ≠ []
  after_blank : ∀ c ∈ after, isBlank c = true

namespace WrittenInteger

variable (w : WrittenInteger)

def text : List Char :=
  w.before ++ w.digits ++ w.after

/-- The number that the digits denote in base ten. -/
def value : Nat :=
  ofDigits (w.digits.map fun c => (decimalValue? c).getD 0)

end WrittenInteger

/-- Whether a character is one of the separators U+001C to U+001F. -/
def isSeparator (c : Char) : Bool :=
  0x1c ≤ c.toNat && c.toNat ≤ 0x1f

-----------------------------------------------------------------------------------------
-- Characters
-----------------------------------------------------------------------------------------

/-- The ASCII character that a blank or a decimal digit counts as in a number. -/
def numeralChar (c : Char) : Char :=
  if c.toNat < 0x7f then c
  else if isBlank c then ' '
  else Char.ofNat (48 + (decimalValue? c).getD 0)

/-- No decimal digit is blank: those of ASCII are not, and no other blank is in the table. -/
theorem not_isBlank_of_isDecimalDigit {c : Char} (digit : isDecimalDigit c = true)
    : isBlank c = false := by
  by_cases ascii : c.toNat < 0x80
  case pos =>
    apply Calendar.not_isBlank_of_isDigit
    by_contra noDigit
    rw [isDecimalDigit, decimalValue?, if_pos ascii, if_neg noDigit] at digit
    cases digit
  case neg =>
    have none : ∀ b ∈ blanks, isDecimalDigit b = false := by
      have all : blanks.all (!isDecimalDigit ·) = true := by decide +kernel
      simpa using all
    by_contra blank
    rw [Bool.not_eq_false, isBlank, if_neg ascii, List.contains_iff_mem] at blank
    rw [none c blank] at digit
    cases digit

/-- A decimal digit counts as the ASCII digit of its value. -/
theorem numeralChar_of_isDecimalDigit {c : Char} (digit : isDecimalDigit c = true)
    : (numeralChar c).isDigit = true ∧ (decimalValue? c).getD 0 = (numeralChar c).toNat - 48 := by
  obtain ⟨v, value⟩ := Option.isSome_iff_exists.mp digit
  by_cases ascii : c.toNat < 0x80
  case pos =>
    have isDigit : c.isDigit = true := by
      by_contra noDigit
      rw [decimalValue?, if_pos ascii, if_neg noDigit] at value
      cases value
    have code := Calendar.code_of_isDigit isDigit
    have same : numeralChar c = c := if_pos (by omega)
    rw [same, Calendar.readsDigits_decimal.digit isDigit]
    exact ⟨isDigit, rfl⟩
  case neg =>
    have shown : numeralChar c = Char.ofNat (48 + v) := by
      rw [numeralChar, if_neg (by omega), if_neg (by simp [not_isBlank_of_isDecimalDigit digit]),
        value]
      rfl
    have small : v < 10 := by
      rw [decimalValue?, if_neg ascii] at value
      obtain ⟨z, found, rfl⟩ := Option.map_eq_some_iff.mp value
      have inTen := List.find?_some found
      simp only [Bool.and_eq_true, decide_eq_true_eq] at inTen
      omega
    have digits : ∀ v < 10, (Char.ofNat (48 + v)).isDigit = true
        ∧ v = (Char.ofNat (48 + v)).toNat - 48 := by decide
    rw [shown, value]
    exact digits v small

/-- The blanks of ASCII. -/
def asciiBlanks : List Char :=
  blanks.take 10

/-- A blank counts as a blank of ASCII, and as a separator exactly if it is one. -/
theorem numeralChar_of_isBlank {c : Char} (blank : isBlank c = true)
    : numeralChar c ∈ asciiBlanks ∧ isSeparator (numeralChar c) = isSeparator c := by
  by_cases ascii : c.toNat < 0x80
  case pos =>
    rw [isBlank, if_pos ascii] at blank
    have code : c.toNat = 32 ∨ (28 ≤ c.toNat ∧ c.toNat ≤ 31) ∨ (9 ≤ c.toNat ∧ c.toNat ≤ 13) := by
      simp only [Bool.or_eq_true, Bool.and_eq_true, decide_eq_true_eq] at blank
      omega
    have few : ∀ n < 33, (n = 32 ∨ (28 ≤ n ∧ n ≤ 31) ∨ (9 ≤ n ∧ n ≤ 13))
        → Char.ofNat n ∈ asciiBlanks := by decide
    have same : numeralChar c = c := if_pos (by omega)
    rw [same]
    exact ⟨Char.ofNat_toNat c ▸ few c.toNat (by omega) code, rfl⟩
  case neg =>
    have space : numeralChar c = ' ' := by
      rw [numeralChar, if_neg (by omega), if_pos blank]
    have other : isSeparator c = false := by
      simp only [isSeparator, Bool.and_eq_false_iff, decide_eq_false_iff_not]
      omega
    rw [space, other]
    decide

theorem asciiBlanks_facts
    : ∀ b ∈ asciiBlanks,
        Scalar.isAsciiSpace b = !isSeparator b
        ∧ Scalar.digitIn? 10 b = none
        ∧ b ≠ '-'
        ∧ b ≠ '+' := by
  have all : asciiBlanks.all (fun b => Scalar.isAsciiSpace b == !isSeparator b
      && (Scalar.digitIn? 10 b).isNone && b != '-' && b != '+') = true := by
    decide
  simpa [and_assoc] using all

theorem digitIn?_of_isDigit {c : Char} (digit : c.isDigit = true)
    : Scalar.digitIn? 10 c = some (c.toNat - 48) := by
  have code := Calendar.code_of_isDigit digit
  rw [Scalar.digitIn?, if_pos digit]
  exact if_pos (by omega)

theorem not_isAsciiSpace_of_isDigit {c : Char} (digit : c.isDigit = true)
    : Scalar.isAsciiSpace c = false := by
  have digits : ∀ n < 10, Scalar.isAsciiSpace (Char.ofNat (48 + n)) = false := by decide
  have code := Calendar.code_of_isDigit digit
  have same : 48 + (c.toNat - 48) = c.toNat := by omega
  have here := digits (c.toNat - 48) (by omega)
  rwa [same, Char.ofNat_toNat] at here

/-- A text of blanks and decimal digits counts as their ASCII characters. -/
theorem numeral_of_known {s : List Char}
    (known : ∀ c ∈ s, isBlank c = true ∨ isDecimalDigit c = true)
    : Scalar.numeral s = s.map numeralChar := by
  unfold Scalar.numeral
  split
  case isTrue ascii =>
    have same : ∀ c ∈ s, numeralChar c = id c := by
      intro c member
      have small : c.toNat < 0x80 := by simpa using List.all_eq_true.mp ascii c member
      have notDelete : c.toNat ≠ 0x7f := by
        intro delete
        obtain rfl : c = '\x7f' := Char.toNat_inj.mp delete
        exact absurd (known _ member) (by decide)
      exact if_pos (by omega)
    rw [List.map_congr_left same, List.map_id]
  case isFalse =>
    have all : s.takeWhile (fun c => c.toNat < 0x7f || isBlank c || isDecimalDigit c) = s := by
      refine List.takeWhile_eq_self_iff.mpr fun c member => ?_
      rcases known c member with blank | digit
      · simp [blank]
      · simp [digit]
    dsimp only
    rw [all, if_neg (Nat.lt_irrefl _), List.append_nil]
    rfl

-----------------------------------------------------------------------------------------
-- Integers
-----------------------------------------------------------------------------------------

/-- Whether a character of a number is one of its digits. -/
def isNumberDigit (c : Char) : Bool :=
  (Scalar.digitIn? 10 c).isSome

/-- The number that ASCII digits denote. -/
def numberOf (digits : List Char) : Nat :=
  digits.foldl (fun n c => 10 * n + (Scalar.digitIn? 10 c).getD 0) 0

/-- A number without a sign is read by its first digits: there may not be too many of them, and
nothing may follow.
-/
theorem integer_of_unsigned {s rest : List Char} {c : Char}
    (trimmed : Scalar.trimAscii (Scalar.numeral s) = c :: rest) (notMinus : c ≠ '-')
    (notPlus : c ≠ '+')
    : Scalar.integer 10 s
      = let digits := (c :: rest).takeWhile isNumberDigit
        if maxDigits < digits.length then .error (.tooManyDigits digits.length)
        else if digits.length < (c :: rest).length then .error (.notInteger 10 (String.ofList s))
        else .ok (numberOf digits) := by
  have unsigned : Scalar.splitSign (c :: rest) = (false, c :: rest) := by
    unfold Scalar.splitSign
    split
    · simp_all
    · simp_all
    · rfl
  have unmarked : Scalar.dropBaseMark 10 (c :: rest) = c :: rest := by
    unfold Scalar.dropBaseMark
    split
    case h_1 same => simp [same]
    case h_2 => rfl
  rw [Scalar.integer, trimmed, unsigned]
  dsimp only
  rw [unmarked]
  simp only [decide_true, Bool.true_and, decide_eq_true_eq, List.isEmpty_cons, Bool.false_or]
  rfl

namespace WrittenInteger

variable {w : WrittenInteger}

/-- The digits as ASCII digits. -/
def asciiDigits (w : WrittenInteger) : List Char :=
  w.digits.map numeralChar

/-- Trimming leaves the digits. -/
theorem trim_text (w : WrittenInteger) : trim w.text = w.digits := by
  obtain ⟨c, rest, shown⟩ := List.exists_cons_of_ne_nil w.digits_ne_nil
  have solid (d) (member : d ∈ w.digits) : isBlank d = false :=
    not_isBlank_of_isDecimalDigit (w.digits_decimal d member)
  have starts : ∀ d ∈ (w.digits ++ w.after).head?, isBlank d = false := by
    simpa [shown] using solid c (by simp [shown])
  have left : trimLeft w.text = w.digits ++ w.after := by
    rw [text, List.append_assoc, trimLeft, dropWhile_append w.before_blank starts]
  rw [trim, left, trimRight]
  exact dropRightWhile_append_of_gone w.after_blank fun d last =>
    solid d (List.mem_of_getLast? last)

/-- A text that trimming leaves decimal digits of, and not nothing, is made up of them. -/
theorem exists_text_eq {s : List Char} (digits : ∀ c ∈ trim s, isDecimalDigit c = true)
    (nonempty : trim s ≠ [])
    : ∃ w : WrittenInteger, w.text = s := by
  obtain ⟨after, split, blank⟩ := exists_eq_dropRightWhile_append isBlank (trimLeft s)
  refine ⟨⟨s.takeWhile isBlank, trim s, after, fun c => List.mem_takeWhile_imp, digits, nonempty,
    blank⟩, ?_⟩
  rw [text, List.append_assoc]
  dsimp only
  rw [trim, trimRight, ← split, trimLeft, List.takeWhile_append_dropWhile]

/-- What of the blanks after the digits is left when spaces are taken off. -/
def leftover (w : WrittenInteger) : List Char :=
  dropRightWhile Scalar.isAsciiSpace (w.after.map numeralChar)

theorem isDigit_of_mem {c : Char} (member : c ∈ w.asciiDigits) : c.isDigit = true := by
  obtain ⟨d, inDigits, rfl⟩ := List.mem_map.mp member
  exact (numeralChar_of_isDecimalDigit (w.digits_decimal d inDigits)).1

theorem exists_asciiDigits_cons (w : WrittenInteger)
    : ∃ c rest, w.asciiDigits = c :: rest ∧ c.isDigit = true := by
  have nonempty : w.asciiDigits ≠ [] := by
    simpa [asciiDigits] using w.digits_ne_nil
  obtain ⟨c, rest, shown⟩ := List.exists_cons_of_ne_nil nonempty
  have inDigits : c ∈ w.asciiDigits := by simp [shown]
  exact ⟨c, rest, shown, isDigit_of_mem inDigits⟩

/-- The number is that of the ASCII digits. -/
theorem value_eq
    : numberOf w.asciiDigits = w.value := by
  rw [numberOf, value, ofDigits, asciiDigits, List.foldl_map, List.foldl_map]
  refine List.foldl_ext _ _ _ fun n c member => ?_
  obtain ⟨digit, value⟩ := numeralChar_of_isDecimalDigit (w.digits_decimal c member)
  rw [value, digitIn?_of_isDigit digit]
  rfl

theorem numeral_text
    : Scalar.numeral w.text
      = w.before.map numeralChar ++ (w.asciiDigits ++ w.after.map numeralChar) := by
  rw [numeral_of_known, text, List.map_append, List.map_append, List.append_assoc]
  · rfl
  · intro c member
    simp only [text, List.mem_append] at member
    rcases member with (front | digit) | back
    · exact .inl (w.before_blank c front)
    · exact .inr (w.digits_decimal c digit)
    · exact .inl (w.after_blank c back)

/-- Blanks without a separator are spaces of a number. -/
theorem all_isAsciiSpace {blanks : List Char} (blank : ∀ c ∈ blanks, isBlank c = true)
    (clean : ∀ c ∈ blanks, isSeparator c = false)
    : ∀ c ∈ blanks.map numeralChar, Scalar.isAsciiSpace c = true := by
  intro c member
  obtain ⟨b, inBlanks, rfl⟩ := List.mem_map.mp member
  obtain ⟨ascii, separator⟩ := numeralChar_of_isBlank (blank b inBlanks)
  rw [(asciiBlanks_facts _ ascii).1, separator, clean b inBlanks]
  rfl

/-- Nothing is left of the blanks after the digits exactly if there is no separator among them. -/
theorem leftover_eq_nil_iff : w.leftover = [] ↔ ∀ c ∈ w.after, isSeparator c = false := by
  constructor
  · intro nothing c member
    obtain ⟨ascii, separator⟩ := numeralChar_of_isBlank (w.after_blank c member)
    by_contra isSeparator
    rw [Bool.not_eq_false] at isSeparator
    refine dropRightWhile_ne_nil (List.mem_map_of_mem member) ?_ nothing
    rw [(asciiBlanks_facts _ ascii).1, separator, isSeparator]
    rfl
  · intro clean
    have gone := all_isAsciiSpace w.after_blank clean
    have all := dropRightWhile_append_of_gone (s := []) gone (by simp)
    rwa [List.nil_append] at all

theorem leftover_blank {c : Char} (member : c ∈ w.leftover) : c ∈ asciiBlanks := by
  obtain ⟨b, inAfter, rfl⟩ := List.mem_map.mp (dropRightWhile_isPrefix.subset member)
  exact (numeralChar_of_isBlank (w.after_blank b inAfter)).1

/-- Without a separator before the digits the number begins with them. -/
theorem trimAscii_of_clean (clean : ∀ c ∈ w.before, isSeparator c = false)
    : Scalar.trimAscii (Scalar.numeral w.text) = w.asciiDigits ++ w.leftover := by
  have solid (c) (member : c ∈ w.asciiDigits) : Scalar.isAsciiSpace c = false :=
    not_isAsciiSpace_of_isDigit (isDigit_of_mem member)
  obtain ⟨c, rest, shown, _⟩ := w.exists_asciiDigits_cons
  have front : (Scalar.numeral w.text).dropWhile Scalar.isAsciiSpace
      = w.asciiDigits ++ w.after.map numeralChar := by
    rw [numeral_text]
    refine dropWhile_append (all_isAsciiSpace w.before_blank clean) ?_
    simp only [shown, List.cons_append, List.head?_cons, Option.mem_some_iff, forall_eq']
    exact solid c (by simp [shown])
  rw [Scalar.trimAscii, front]
  by_cases nothing : w.leftover = []
  case pos =>
    rw [nothing, List.append_nil]
    have clean := leftover_eq_nil_iff.mp nothing
    refine dropRightWhile_append_of_gone (all_isAsciiSpace w.after_blank clean) fun c last => ?_
    exact solid c (List.mem_of_getLast? last)
  case neg => exact dropRightWhile_append_of_left nothing

/-- A separator before the digits is where the number begins. -/
theorem trimAscii_of_separator (separator : ∃ c ∈ w.before, isSeparator c = true)
    : ∃ c rest, Scalar.trimAscii (Scalar.numeral w.text) = c :: rest ∧ c ∈ asciiBlanks := by
  obtain ⟨s, inBefore, isSeparator⟩ := separator
  have kept : ∃ x ∈ w.before.map numeralChar, Scalar.isAsciiSpace x = false := by
    obtain ⟨ascii, same⟩ := numeralChar_of_isBlank (w.before_blank s inBefore)
    refine ⟨_, List.mem_map_of_mem inBefore, ?_⟩
    rw [(asciiBlanks_facts _ ascii).1, same, isSeparator]
    rfl
  have left : (w.before.map numeralChar).dropWhile Scalar.isAsciiSpace ≠ [] := by
    obtain ⟨x, member, solid⟩ := kept
    intro nothing
    have := List.dropWhile_eq_nil_iff.mp nothing x member
    simp [solid] at this
  obtain ⟨c, rest, begins⟩ := List.exists_cons_of_ne_nil left
  have blank : c ∈ asciiBlanks := by
    have inFront : c ∈ w.before.map numeralChar :=
      (List.dropWhile_suffix _).subset (by rw [begins]; exact List.mem_cons_self)
    obtain ⟨b, inBefore, rfl⟩ := List.mem_map.mp inFront
    exact (numeralChar_of_isBlank (w.before_blank b inBefore)).1
  have solid : Scalar.isAsciiSpace c = false := by
    have := List.head_dropWhile_not Scalar.isAsciiSpace left
    simpa [begins] using this
  have whole : (Scalar.numeral w.text).dropWhile Scalar.isAsciiSpace
      = c :: (rest ++ (w.asciiDigits ++ w.after.map numeralChar)) := by
    rw [numeral_text, List.dropWhile_append, if_neg (by simp [begins]), begins, List.cons_append]
  rw [Scalar.trimAscii, whole, dropRightWhile_cons solid]
  exact ⟨c, _, rfl, blank⟩

/-- Digits with a separator before them are no integer. -/
theorem integer_of_separatorBefore (separator : ∃ c ∈ w.before, isSeparator c = true)
    : Scalar.integer 10 w.text = .error (.notInteger 10 (String.ofList w.text)) := by
  obtain ⟨c, rest, trimmed, blank⟩ := trimAscii_of_separator separator
  obtain ⟨_, noDigit, notMinus, notPlus⟩ := asciiBlanks_facts c blank
  have none : (c :: rest).takeWhile isNumberDigit = [] :=
    List.takeWhile_cons_of_neg (by simp [isNumberDigit, noDigit])
  rw [integer_of_unsigned trimmed notMinus notPlus, none]
  rfl

/-- Digits without a separator before them are an integer if there are not too many of them and no
separator follows.
-/
theorem integer_of_clean (clean : ∀ c ∈ w.before, isSeparator c = false)
    : Scalar.integer 10 w.text
      = if maxDigits < w.digits.length then .error (.tooManyDigits w.digits.length)
        else if w.after.any isSeparator then
          .error (.notInteger 10 (String.ofList w.text))
        else .ok w.value := by
  have trimmed := trimAscii_of_clean clean
  obtain ⟨c, rest, shown, digit⟩ := w.exists_asciiDigits_cons
  have digits : (w.asciiDigits ++ w.leftover).takeWhile isNumberDigit = w.asciiDigits := by
    have all : ∀ c ∈ w.asciiDigits, isNumberDigit c = true := by
      intro c member
      simp [isNumberDigit, digitIn?_of_isDigit (isDigit_of_mem member)]
    rw [List.takeWhile_append_of_pos all]
    cases left : w.leftover with
    | nil => rw [List.takeWhile_nil, List.append_nil]
    | cons b more =>
        have inLeftover : b ∈ w.leftover := by simp [left]
        have noDigit := (asciiBlanks_facts b (leftover_blank inLeftover)).2.1
        rw [List.takeWhile_cons_of_neg (by simp [isNumberDigit, noDigit]), List.append_nil]
  have separated : w.asciiDigits.length < (w.asciiDigits ++ w.leftover).length
      ↔ w.after.any isSeparator = true := by
    have nothing := leftover_eq_nil_iff (w := w)
    rw [List.length_append, Nat.lt_add_right_iff_pos, List.length_pos_iff, Ne, nothing]
    simp
  have begins : Scalar.trimAscii (Scalar.numeral w.text) = c :: (rest ++ w.leftover) := by
    rw [trimmed, shown, List.cons_append]
  rw [integer_of_unsigned begins (Calendar.ne_of_isDigit digit rfl)
    (Calendar.ne_of_isDigit digit rfl), ← List.cons_append, ← shown, digits]
  simp only [separated, value_eq]
  rw [asciiDigits, List.length_map]

end WrittenInteger

end BlogSnapshot.Yaml
