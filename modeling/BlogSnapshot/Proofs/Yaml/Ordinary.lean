import BlogSnapshot.Proofs.Frontmatter.QuotedTimestamp
import Mathlib.Computability.RegularExpressions

/-! Plain scalars that are no words of their own. Every text but the spellings of the absent value,
native timestamps and the marks of merging and of the default has the tag of text, and that holds
for all spellings of truth values, integers and doubles, which the usual loader builds as such.
-/

namespace BlogSnapshot.Yaml

open Calendar

/-- A text that spells neither the absent value nor a timestamp, and that is no mark of merging or
of the default entry; a line feed at its end is passed over.
-/
structure IsOrdinary (s : String) : Prop where
  noNull : Tag.isNullWord (withoutLastLineFeed s.toList) = false
  noStamp : isNativeStamp s.toList = false
  noMerge : withoutLastLineFeed s.toList ≠ ['<', '<']
  noValue : withoutLastLineFeed s.toList ≠ ['=']

/-- The characters that begin a tag, an anchor and an alias, with none of which a plain scalar
starts.
-/
def isPropertyMark (c : Char) : Bool :=
  c = '!' || c = '&' || c = '*'

theorem head?_withoutLastLineFeed {s : List Char} {c : Char}
    (head : (withoutLastLineFeed s).head? = some c)
    : s.head? = some c := by
  unfold withoutLastLineFeed at head
  split at head
  · rw [List.head?_dropLast] at head
    split at head
    · exact head
    · cases head
  · exact head

/-- An ordinary text that starts as a plain scalar can has the tag of text. -/
theorem IsOrdinary.ofPlain_eq {s : String} (ordinary : IsOrdinary s)
    (starts : s.toList.head?.any isPropertyMark = false)
    : Tag.ofPlain s = Tag.str := by
  obtain ⟨noNull, noStamp, noMerge, noValue⟩ := ordinary
  have nonempty : s.toList ≠ [] := by
    intro nothing
    rw [nothing] at noNull
    cases noNull
  have noMark {c : Char} (isMark : isPropertyMark c = true)
      : withoutLastLineFeed s.toList ≠ [c] := by
    intro word
    have head := head?_withoutLastLineFeed (s := s.toList) (c := c) (by rw [word]; rfl)
    rw [head, Option.any_some, isMark] at starts
    cases starts
  simp [Tag.ofPlain, nonempty, noNull, noStamp, noMerge, noValue,
    noMark (c := '!') (by decide), noMark (c := '&') (by decide), noMark (c := '*') (by decide)]

/-- An ordinary text is tagged as text with and without quotes. -/
theorem IsOrdinary.scalarTag_eq {s : String} (ordinary : IsOrdinary s)
    (starts : s.toList.head?.any isPropertyMark = false) (plain : Bool)
    : Node.scalarTag s plain none = Tag.str := by
  cases plain with
  | false => rfl
  | true => exact ordinary.ofPlain_eq starts

-----------------------------------------------------------------------------------------
-- The usual spellings of truth values and numbers
-----------------------------------------------------------------------------------------

namespace Typed

open RegularExpression

/-- One of some characters. -/
def oneOf (characters : String) : RegularExpression Char :=
  (characters.toList.map char).sum

/-- One of some words. -/
def words (spellings : List String) : RegularExpression Char :=
  (spellings.map fun s => (s.toList.map char).prod).sum

def optional (r : RegularExpression Char) : RegularExpression Char :=
  1 + r

def oneOrMore (r : RegularExpression Char) : RegularExpression Char :=
  r * r.star

def digit : RegularExpression Char :=
  oneOf "0123456789"

/-- A digit or an underscore. -/
def place : RegularExpression Char :=
  oneOf "0123456789_"

def sign : RegularExpression Char :=
  optional (oneOf "-+")

/-- Places of sixty after colons. -/
def sixties : RegularExpression Char :=
  oneOrMore (char ':' * optional (oneOf "012345") * digit)

/-- The mark of an exponent with its sign. -/
def exponentMark : RegularExpression Char :=
  oneOf "eE" * oneOf "-+"

/-- The spellings of truth values. -/
def bool : RegularExpression Char :=
  words [
    "yes", "Yes", "YES", "no", "No", "NO", "true", "True", "TRUE", "false", "False", "FALSE",
    "on", "On", "ON", "off", "Off", "OFF"
  ]

/-- Doubles: decimal ones, places of sixty, infinities and no number. -/
def float : RegularExpression Char :=
  sign * (digit * place.star * char '.' * place.star * optional (exponentMark * oneOrMore digit))
    + char '.' * digit * place.star * optional (exponentMark * oneOrMore digit)
    + sign * (digit * place.star * sixties * char '.' * place.star)
    + sign * (char '.' * words ["inf", "Inf", "INF"])
    + char '.' * words ["nan", "NaN", "NAN"]

/-- Integers: binary, octal, decimal and hexadecimal ones and places of sixty. -/
def int : RegularExpression Char :=
  sign * (char '0' * char 'b' * oneOrMore (oneOf "01_"))
    + sign * (char '0' * oneOrMore (oneOf "01234567_"))
    + sign * (char '0' + oneOf "123456789" * place.star)
    + sign * (char '0' * char 'x' * oneOrMore (oneOf "0123456789abcdefABCDEF_"))
    + sign * (oneOf "123456789" * place.star * sixties)

/-- A text that the usual loader builds as a truth value, a double or an integer; a line feed at
its end is passed over.
-/
def Spells (s : String) : Prop :=
  withoutLastLineFeed s.toList ∈ (bool + float + int).matches'

/-- The characters that an expression mentions. -/
def characters : RegularExpression Char → List Char
  | .zero | .epsilon => []
  | .char c => [c]
  | .plus left right | .comp left right => characters left ++ characters right
  | .star r => characters r

/-- A spelling is made up of characters that are mentioned, by induction on the expression. -/
theorem subset_characters {r : RegularExpression Char} {s : List Char} (spelled : s ∈ r.matches')
    : s ⊆ characters r := by
  induction r generalizing s with
  | zero => cases spelled
  | epsilon =>
      rw [Set.mem_singleton_iff.mp spelled]
      exact List.nil_subset _
  | char c =>
      rw [Set.mem_singleton_iff.mp spelled]
      exact List.Subset.refl _
  | plus left right ofLeft ofRight =>
      rcases spelled with spelled | spelled
      · exact List.Subset.trans (ofLeft spelled) (List.subset_append_left _ _)
      · exact List.Subset.trans (ofRight spelled) (List.subset_append_right _ _)
  | comp left right ofLeft ofRight =>
      obtain ⟨front, inFront, back, inBack, rfl⟩ := Language.mem_mul.mp spelled
      refine List.append_subset.mpr ⟨?_, ?_⟩
      · exact List.Subset.trans (ofLeft inFront) (List.subset_append_left _ _)
      · exact List.Subset.trans (ofRight inBack) (List.subset_append_right _ _)
  | star r ofPiece =>
      obtain ⟨pieces, rfl, each⟩ := Language.mem_kstar.mp spelled
      intro c member
      obtain ⟨piece, isPiece, inPiece⟩ := List.mem_flatten.mp member
      exact ofPiece (each piece isPiece) inPiece

theorem exists_of_mem_oneOf {characters : String} {s : List Char}
    (spelled : s ∈ (oneOf characters).matches')
    : ∃ c ∈ characters.toList, s = [c] := by
  unfold oneOf at spelled
  generalize characters.toList = choices at spelled ⊢
  induction choices with
  | nil => cases spelled
  | cons c rest ih =>
      rcases spelled with same | spelled
      · exact ⟨c, List.mem_cons_self, Set.mem_singleton_iff.mp same⟩
      · obtain ⟨d, member, same⟩ := ih spelled
        exact ⟨d, List.mem_cons_of_mem c member, same⟩

/-- Every minus sign of a text comes right after a character that is no digit. -/
def SignsFollowLetters (s : List Char) : Prop :=
  ∀ front back, s = front ++ '-' :: back → ∃ start c, front = start ++ [c] ∧ c.isDigit = false

/-- Every spelling of an expression has its signs after letters. -/
def SignsInside (r : RegularExpression Char) : Prop :=
  ∀ s ∈ r.matches', SignsFollowLetters s

namespace SignsInside

variable {r s : RegularExpression Char}

theorem of_not_mem (unsigned : '-' ∉ characters r) : SignsInside r := by
  intro s spelled front back parts
  exact absurd (subset_characters spelled (by simp [parts])) unsigned

theorem add (left : SignsInside r) (right : SignsInside s) : SignsInside (r + s) := by
  intro t spelled
  rcases spelled with spelled | spelled
  · exact left t spelled
  · exact right t spelled

/-- A sign of a concatenation is one of its parts, and has the same characters before it. -/
theorem mul (left : SignsInside r) (right : SignsInside s) : SignsInside (r * s) := by
  intro t spelled front back parts
  obtain ⟨first, inFirst, second, inSecond, rfl⟩ := Language.mem_mul.mp spelled
  rcases List.append_eq_append_iff.mp parts with ⟨more, rfl, rest⟩ | ⟨more, rfl, rest⟩
  · obtain ⟨start, c, rfl, noDigit⟩ := right second inSecond more back rest
    exact ⟨first ++ start, c, by simp, noDigit⟩
  · cases more with
    | nil =>
        obtain ⟨start, c, nothing, -⟩ := right second inSecond [] back (by simpa using rest.symm)
        cases start <;> cases nothing
    | cons c more =>
        obtain ⟨rfl, rfl⟩ := List.cons.inj rest
        exact left _ inFirst front more rfl

theorem exponentMark : SignsInside exponentMark := by
  intro s spelled front back parts
  obtain ⟨_, inLetters, _, inSigns, rfl⟩ := Language.mem_mul.mp spelled
  obtain ⟨letter, isLetter, rfl⟩ := exists_of_mem_oneOf inLetters
  obtain ⟨sign, -, rfl⟩ := exists_of_mem_oneOf inSigns
  have isExponent : letter = 'e' ∨ letter = 'E' := by simpa using isLetter
  have noSign : letter ≠ '-' ∧ letter.isDigit = false := by
    rcases isExponent with rfl | rfl <;> decide
  cases front with
  | nil => exact absurd (List.cons.inj parts).1 noSign.1
  | cons c front =>
      obtain ⟨rfl, rest⟩ := List.cons.inj parts
      obtain ⟨rfl, -, -⟩ | ⟨-, nothing⟩ := List.singleton_eq_append_iff.mp rest
      · exact ⟨[], letter, rfl, noSign.2⟩
      · cases nothing

theorem optionalExponent : SignsInside (optional (Typed.exponentMark * oneOrMore digit)) :=
  .add (.of_not_mem (by decide)) (.mul exponentMark (.of_not_mem (by decide)))

end SignsInside

/-- No spelling of an expression has a minus sign right after a digit. -/
def SignsApart (r : RegularExpression Char) : Prop :=
  ∀ s ∈ r.matches', ∀ front c back, s = front ++ c :: '-' :: back → c.isDigit = false

namespace SignsApart

variable {r s : RegularExpression Char}

theorem of_signsInside (inside : SignsInside r) : SignsApart r := by
  intro s spelled front c back parts
  obtain ⟨start, last, same, noDigit⟩ := inside s spelled (front ++ [c]) back (by simp [parts])
  rwa [(List.append_inj' same rfl).2 |> List.cons.inj |>.1]

theorem add (left : SignsApart r) (right : SignsApart s) : SignsApart (r + s) := by
  intro t spelled
  rcases spelled with spelled | spelled
  · exact left t spelled
  · exact right t spelled

/-- The sign of a number stands first, and no digit before it. -/
theorem signed (inside : SignsInside r) : SignsApart (sign * r) := by
  intro t spelled front c back parts
  obtain ⟨_, inSign, body, inBody, rfl⟩ := Language.mem_mul.mp spelled
  rcases inSign with nothing | inSign
  · rw [Set.mem_singleton_iff.mp nothing] at parts
    exact of_signsInside inside body inBody front c back parts
  · obtain ⟨mark, isMark, rfl⟩ := exists_of_mem_oneOf inSign
    have isSign : mark = '-' ∨ mark = '+' := by simpa using isMark
    have noDigit : mark.isDigit = false := by rcases isSign with rfl | rfl <;> rfl
    cases front with
    | nil =>
        obtain ⟨rfl, -⟩ := List.cons.inj parts
        exact noDigit
    | cons first front =>
        exact of_signsInside inside body inBody front c back (List.cons.inj parts).2

theorem typed : SignsApart (bool + float + int) := by
  have plain {r : RegularExpression Char} (unsigned : '-' ∉ characters r) : SignsInside r :=
    .of_not_mem unsigned
  refine .add (.add (of_signsInside (plain (by decide))) ?_) ?_
  · refine .add (.add (.add (.add (signed ?_) (of_signsInside ?_)) (signed ?_)) (signed ?_))
      (of_signsInside ?_)
    · exact (plain (by decide)).mul .optionalExponent
    · exact (plain (by decide)).mul .optionalExponent
    · exact plain (by decide)
    · exact plain (by decide)
    · exact plain (by decide)
  · exact .add (.add (.add (.add (signed (plain (by decide))) (signed (plain (by decide))))
      (signed (plain (by decide)))) (signed (plain (by decide)))) (signed (plain (by decide)))

end SignsApart

/-- A spelling of a truth value or a number is an ordinary text: it is none of the few words, and
a timestamp has a minus sign after the digits of its year.
-/
theorem Spells.isOrdinary {s : String} (spells : Spells s) : IsOrdinary s where
  noNull := by
    by_contra isWord
    rw [Bool.not_eq_false] at isWord
    simp only [Tag.isNullWord, Bool.or_eq_true, decide_eq_true_eq, or_assoc] at isWord
    rcases isWord with word | word | word | word | word <;>
      exact absurd spells (by rw [Spells, word]; decide +kernel)
  noStamp := by
    by_contra isStamp
    rw [Bool.not_eq_false] at isStamp
    obtain ⟨w, text⟩ := exists_stamp_of_isNativeStamp isStamp
    obtain ⟨front, last, year⟩ : ∃ front last, w.year.chars = front ++ [last] := by
      rcases List.eq_nil_or_concat' w.year.chars with nothing | concat
      · have length := w.year_length
        rw [Digits.length, nothing] at length
        cases length
      · exact concat
    have digit := w.year.isDigit last (by simp [year])
    have apart := SignsApart.typed _ spells front last
      (w.month.chars ++ '-' :: (w.day.chars ++ w.timeText))
      (by simp [← text, WrittenStamp.text, year])
    rw [digit] at apart
    cases apart
  noMerge := by
    intro word
    exact absurd spells (by rw [Spells, word]; decide +kernel)
  noValue := by
    intro word
    exact absurd spells (by rw [Spells, word]; decide +kernel)

end Typed

end BlogSnapshot.Yaml
