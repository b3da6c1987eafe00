import BlogSnapshot.Calendar.PatternReader
import Mathlib.Tactic.Ring
import Mathlib.Tactic.Positivity

/-! Runs of ASCII digits and how they are read. Readers of digits take as many of them as they may
and leave the rest of the text, whichever other digits they know.
-/

namespace BlogSnapshot.Calendar

open Text

/-- A run of ASCII digits. -/
structure Digits where
  chars : List Char
  isDigit : ∀ c ∈ chars, c.isDigit = true

namespace Digits

variable (d : Digits)

def length : Nat := d.chars.length

/-- The values of the digits. -/
def values : List Nat := d.chars.map fun c => c.toNat - 48

/-- The number that the digits denote. -/
def number : Nat := ofDigits d.values

@[simp] theorem length_values : d.values.length = d.length := by
  simp [values, length]

theorem exists_cons (nonempty : 1 ≤ d.length)
    : ∃ c rest, d.chars = c :: rest ∧ c.isDigit = true := by
  obtain ⟨chars, isDigit⟩ := d
  cases chars with
  | nil => exact absurd nonempty (by simp [length])
  | cons c rest => exact ⟨c, rest, rfl, isDigit c (by simp)⟩

/-- The first digits of a run. -/
def take (n : Nat) : Digits :=
  ⟨d.chars.take n, fun c member => d.isDigit c (List.mem_of_mem_take member)⟩

/-- The digits of a run after its first ones. -/
def drop (n : Nat) : Digits :=
  ⟨d.chars.drop n, fun c member => d.isDigit c (List.mem_of_mem_drop member)⟩

theorem take_append_drop (n : Nat) : (d.take n).chars ++ (d.drop n).chars = d.chars :=
  List.take_append_drop n d.chars

theorem length_take {n : Nat} (le : n ≤ d.length) : (d.take n).length = n :=
  List.length_take_of_le le

theorem number_take (n : Nat) : (d.take n).number = ofDigits (d.values.take n) := by
  rw [number, values, take, List.map_take, values]

theorem length_drop (n : Nat) : (d.drop n).length = d.length - n :=
  List.length_drop

end Digits

/-- No digit stands at the head of a text: it is empty or begins with another ASCII character. -/
def EndsDigits (s : List Char) : Prop :=
  ∀ c ∈ s.head?, c.toNat < 0x80 ∧ c.isDigit = false

theorem endsDigits_nil : EndsDigits [] := by
  simp [EndsDigits]

theorem endsDigits_cons {c : Char} {s : List Char}
    : EndsDigits (c :: s) ↔ c.toNat < 0x80 ∧ c.isDigit = false := by
  simp [EndsDigits]

theorem code_of_isDigit {c : Char} (isDigit : c.isDigit = true) : 48 ≤ c.toNat ∧ c.toNat ≤ 57 := by
  simp only [Char.isDigit, Bool.and_eq_true, decide_eq_true_eq, ge_iff_le, UInt32.le_iff_toNat_le]
    at isDigit
  exact isDigit

theorem not_isBlank_of_isDigit {c : Char} (digit : c.isDigit = true) : isBlank c = false := by
  have code := code_of_isDigit digit
  rw [isBlank, if_pos (by omega)]
  simp only [Bool.or_eq_false_iff, Bool.and_eq_false_iff, decide_eq_false_iff_not]
  omega

theorem ne_of_isDigit {c other : Char} (isDigit : c.isDigit = true)
    (noDigit : other.isDigit = false)
    : c ≠ other := by
  rintro rfl
  rw [isDigit] at noDigit
  cases noDigit

/-- A reader of digits that knows those of ASCII and no other ASCII characters. -/
structure ReadsDigits (value? : Char → Option Nat) : Prop where
  digit : ∀ {c}, c.isDigit = true → value? c = some (c.toNat - 48)
  other : ∀ {c}, c.toNat < 0x80 → c.isDigit = false → value? c = none

theorem readsDigits_ascii : ReadsDigits asciiDigit? where
  digit isDigit := if_pos isDigit
  other _ noDigit := if_neg (by simp [noDigit])

theorem readsDigits_decimal : ReadsDigits decimalValue? where
  digit isDigit := by
    have code := code_of_isDigit isDigit
    rw [decimalValue?, if_pos (by omega), if_pos isDigit]
  other ascii noDigit := by
    rw [decimalValue?, if_pos ascii, if_neg (by simp [noDigit])]

section

variable {value? : Char → Option Nat} {most least : Nat} {s rest : List Char} {ds : List Nat}

/-- Digits at the head of a text are read until there are no more, or as many as may be, by
induction on them.
-/
theorem headDigits_append (reads : ReadsDigits value?) (d : Digits) (rest : List Char)
    (fits : d.length ≤ most) (ends : d.length = most ∨ EndsDigits rest)
    : headDigits value? most (d.chars ++ rest) = (d.values, rest) := by
  obtain ⟨chars, isDigit⟩ := d
  simp only [Digits.length, Digits.values] at fits ends ⊢
  induction chars generalizing most with
  | nil =>
      cases most with
      | zero => rfl
      | succ most =>
          have noDigit := ends.resolve_left (by simp)
          cases rest with
          | nil => rfl
          | cons c rest =>
              rw [endsDigits_cons] at noDigit
              simp [headDigits, reads.other noDigit.1 noDigit.2]
  | cons c chars ih =>
      cases most with
      | zero => simp at fits
      | succ most =>
          have inRest := (List.forall_mem_cons.mp isDigit).2
          simp only [List.length_cons, Nat.add_le_add_iff_right, Nat.add_right_cancel_iff]
            at fits ends
          rw [List.cons_append, headDigits, reads.digit (isDigit c (by simp))]
          simp only [ih inRest fits ends, List.map_cons]

theorem someDigits_append (reads : ReadsDigits value?) (d : Digits) (rest : List Char)
    (range : least ≤ d.length ∧ d.length ≤ most) (ends : d.length = most ∨ EndsDigits rest)
    : someDigits value? least most (d.chars ++ rest) = some (d.values, rest) := by
  rw [someDigits, headDigits_append reads d rest range.2 ends]
  simp [range.1]

theorem someDigits_eq_none (reads : ReadsDigits value?) (d : Digits)
    (short : d.length < least) (le : least ≤ most) (ends : EndsDigits rest)
    : someDigits value? least most (d.chars ++ rest) = none := by
  rw [someDigits, headDigits_append reads d rest (by omega) (.inr ends)]
  simp [short]

theorem someDigits_of_endsDigits (reads : ReadsDigits value?) (positive : 1 ≤ least)
    (le : least ≤ most) (ends : EndsDigits s)
    : someDigits value? least most s = none :=
  someDigits_eq_none reads ⟨[], by simp⟩ positive le ends

/-- What is read of a text are ASCII digits at its head, by induction on how many may be read. -/
theorem exists_digits_of_headDigits (read : headDigits asciiDigit? most s = (ds, rest))
    : ∃ d : Digits, s = d.chars ++ rest ∧ d.values = ds ∧ d.length ≤ most := by
  induction most generalizing s ds rest with
  | zero =>
      cases read
      exact ⟨⟨[], by simp⟩, rfl, rfl, le_refl 0⟩
  | succ most ih =>
      cases s with
      | nil =>
          cases read
          exact ⟨⟨[], by simp⟩, rfl, rfl, Nat.zero_le _⟩
      | cons c s =>
          rw [headDigits] at read
          cases isDigit : c.isDigit with
          | false =>
              have none : asciiDigit? c = none := if_neg (by simp [isDigit])
              simp only [none] at read
              cases read
              exact ⟨⟨[], by simp⟩, rfl, rfl, Nat.zero_le _⟩
          | true =>
              simp only [readsDigits_ascii.digit isDigit] at read
              cases more : headDigits asciiDigit? most s with
              | mk others tail =>
                  obtain ⟨d, rfl, rfl, fits⟩ := ih more
                  simp only [more] at read
                  cases read
                  refine ⟨⟨c :: d.chars, ?_⟩, rfl, rfl, Nat.succ_le_succ fits⟩
                  exact List.forall_mem_cons.mpr ⟨isDigit, d.isDigit⟩

theorem exists_digits_of_someDigits (read : someDigits asciiDigit? least most s = some (ds, rest))
    : ∃ d : Digits,
        s = d.chars ++ rest ∧ d.values = ds ∧ least ≤ d.length ∧ d.length ≤ most := by
  rw [someDigits] at read
  cases found : headDigits asciiDigit? most s with
  | mk values tail =>
      obtain ⟨d, split, rfl, fits⟩ := exists_digits_of_headDigits found
      simp only [found] at read
      split at read
      case isTrue enough =>
        cases read
        exact ⟨d, split, rfl, by simpa using enough, fits⟩
      case isFalse => cases read

-----------------------------------------------------------------------------------------
-- Numbers of a fixed width
-----------------------------------------------------------------------------------------

/-- A number of fixed width is read from as many digits, by induction on them. -/
theorem fixedNumber_append (d : Digits) (value : Nat)
    : fixedNumber d.length value (d.chars ++ rest)
      = some (d.values.foldl (fun n x => 10 * n + x) value, rest) := by
  obtain ⟨chars, isDigit⟩ := d
  simp only [Digits.length, Digits.values]
  induction chars generalizing value with
  | nil => rfl
  | cons c chars ih =>
      have inRest := (List.forall_mem_cons.mp isDigit).2
      simp only [List.length_cons, List.cons_append, fixedNumber,
        readsDigits_ascii.digit (isDigit c (by simp)), List.map_cons, List.foldl_cons]
      exact ih _ inRest

theorem fixedNumber_of_length (d : Digits) (rest : List Char) (length : d.length = most)
    : fixedNumber most 0 (d.chars ++ rest) = some (d.number, rest) := by
  rw [← length]
  exact fixedNumber_append d 0

/-- A number of fixed width is not read from fewer digits, by induction on them. -/
theorem fixedNumber_eq_none (d : Digits) (short : d.length < most) (value : Nat)
    (ends : EndsDigits rest)
    : fixedNumber most value (d.chars ++ rest) = none := by
  obtain ⟨chars, isDigit⟩ := d
  simp only [Digits.length] at short
  induction chars generalizing most value with
  | nil =>
      obtain ⟨more, rfl⟩ := Nat.exists_eq_add_of_lt short
      cases rest with
      | nil => simp [fixedNumber]
      | cons c rest =>
          rw [endsDigits_cons] at ends
          simp [fixedNumber, readsDigits_ascii.other ends.1 ends.2]
  | cons c chars ih =>
      have inRest := (List.forall_mem_cons.mp isDigit).2
      cases most with
      | zero => simp at short
      | succ most =>
          simp only [List.cons_append, fixedNumber,
            readsDigits_ascii.digit (isDigit c (by simp))]
          exact ih _ inRest (by simpa using short)

end

-----------------------------------------------------------------------------------------
-- Fractions
-----------------------------------------------------------------------------------------

/-- Microseconds of the fraction of a second that digits after a point denote, what is smaller
dropped.
-/
def Digits.micros (d : Digits) : Nat :=
  d.number * 10 ^ 6 / 10 ^ d.length

theorem ofDigits_append (ds es : List Nat)
    : ofDigits (ds ++ es) = ofDigits ds * 10 ^ es.length + ofDigits es := by
  induction es using List.reverseRecOn with
  | nil => simp [ofDigits]
  | append_singleton es e ih =>
      have snoc (fs : List Nat) : ofDigits (fs ++ [e]) = 10 * ofDigits fs + e := by
        simp [ofDigits]
      rw [← List.append_assoc, snoc, snoc, ih, List.length_append, List.length_singleton, pow_succ]
      ring

theorem ofDigits_lt {ds : List Nat} (digits : ∀ x ∈ ds, x < 10) : ofDigits ds < 10 ^ ds.length := by
  induction ds using List.reverseRecOn with
  | nil => simp [ofDigits]
  | append_singleton ds x ih =>
      have more := ih fun y member => digits y (by simp [member])
      have last := digits x (by simp)
      rw [ofDigits_append, List.length_append, List.length_singleton, pow_succ]
      simp only [ofDigits, List.foldl_cons, List.foldl_nil] at more ⊢
      omega

theorem Digits.values_lt (d : Digits) : ∀ x ∈ d.values, x < 10 := by
  intro x member
  obtain ⟨c, inChars, rfl⟩ := List.mem_map.mp member
  have := code_of_isDigit (d.isDigit c inChars)
  omega

/-- Six digits of a fraction are its microseconds: digits that are missing are zeros, and digits
beyond the sixth are dropped.
-/
theorem sixDigits_values (d : Digits) : sixDigits d.values = d.micros := by
  rw [sixDigits, Digits.micros, Digits.number, d.length_values]
  rcases Nat.le_total d.length 6 with few | many
  · have all : d.values.take 6 = d.values := List.take_of_length_le (by simpa using few)
    have whole : 10 ^ 6 = 10 ^ (6 - d.length) * 10 ^ d.length := by
      rw [← pow_add, Nat.sub_add_cancel few]
    rw [all, whole, ← Nat.mul_assoc, Nat.mul_div_cancel _ (by positivity)]
    rfl
  · have more : 10 ^ d.length = 10 ^ (d.length - 6) * 10 ^ 6 := by
      rw [← pow_add, Nat.sub_add_cancel many]
    have small : ofDigits (d.values.drop 6) < 10 ^ (d.length - 6) := by
      have below : ofDigits (d.values.drop 6) < 10 ^ (d.values.drop 6).length :=
        ofDigits_lt fun x member => d.values_lt x (List.mem_of_mem_drop member)
      simpa using below
    have split : ofDigits d.values
        = ofDigits (d.values.take 6) * 10 ^ (d.length - 6) + ofDigits (d.values.drop 6) := by
      have := ofDigits_append (d.values.take 6) (d.values.drop 6)
      rwa [List.take_append_drop, List.length_drop, d.length_values] at this
    rw [more, Nat.mul_div_mul_right _ _ (by positivity), split, Nat.mul_comm _ (10 ^ _),
      Nat.mul_add_div (by positivity), Nat.div_eq_of_lt small, Nat.sub_eq_zero_of_le many]
    exact Nat.mul_one _

theorem Digits.micros_lt (d : Digits) : d.micros < 10 ^ 6 := by
  have below := ofDigits_lt d.values_lt
  rw [d.length_values] at below
  rw [Digits.micros, Nat.div_lt_iff_lt_mul (by positivity), Nat.mul_comm]
  exact Nat.mul_lt_mul_of_pos_left below (by positivity)

end BlogSnapshot.Calendar
